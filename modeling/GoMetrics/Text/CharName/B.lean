/-!
Names of characters that begin with B, as a tree of their words (Unicode 14).
-/

namespace GoMetrics.Text.CharName

def namesB : List String :=
  ["aBABY aBABY_ bANGEL bBOTTLE bCHICK bSYMBOL aBACK- bTILTED_ cSHADOWED_ dWHITE_ eRIGHTWARDS_",
    "fARROW aBACKSLANTED_ bSOUTH_ cARROW_ dWITH_ eHOOKED_ fTAIL eHORIZONTAL_ fTAIL aBACKSPACE",
    "aBACK_ bOF_ cENVELOPE bWITH_ cLEFTWARDS_ dARROW_ eABOVE aBACON aBACTRIAN_ bCAMEL aBADGER",
    "aBADMINTON_ bRACQUET_ cAND_ dSHUTTLECOCK aBAGEL aBAGGAGE_ bCLAIM aBAGUETTE_ bBREAD",
    "aBALINESE_ bADEG_ cADEG bCARIK_ cPAMUNGKAH cPAREREN cSIKI bDIGIT_ cEIGHT cFIVE cFOUR cNINE",
    "cONE cSEVEN cSIX cTHREE cTWO cZERO bLETTER_ cAIKARA cAKARA cAKARA_ dTEDUNG cARCHAIC_ dJNYA",
    "cASYURA_ dSASAK cBA cBA_ dKEMBANG cCA cCA_ dLACA cDA cDA_ dMADU dMURDA_ eALPAPRANA",
    "eMAHAPRANA cEF_ dSASAK cEKARA cGA cGA_ dGORA cHA cIKARA cIKARA_ dTEDUNG cJA cJA_ dJERA cKA",
    "cKAF_ dSASAK cKA_ dMAHAPRANA cKHOT_ dSASAK cLA cLA_ dLENGA dLENGA_ eTEDUNG cMA cNA cNA_",
    "dRAMBAT cNGA cNYA cOKARA cOKARA_ dTEDUNG cPA cPA_ dKAPAL cRA cRA_ dREPA dREPA_ eTEDUNG cSA",
    "cSA_ dSAGA dSAPA cTA cTA_ dLATIK dMURDA_ eMAHAPRANA dTAWA cTZIR_ dSASAK cUKARA cUKARA_",
    "dTEDUNG cVE_ dSASAK cWA cYA cZAL_ dSASAK bMUSICAL_ cSYMBOL_ dCOMBINING_ eBENDE eENDEP eGONG",
    "eJEGOGAN eKEMPLI eKEMPLI_ fWITH_ gJEGOGAN eKEMPUL eKEMPUL_ fWITH_ gJEGOGAN eTEGEH dDAENG",
    "dDAING dDANG dDANG_ eGEDE eSURANG dDENG dDEUNG dDING dDONG dDUNG dLEFT- eHAND_ fCLOSED_",
    "gPLAK gPLUK fOPEN_ gPANG gPING gPUNG dRIGHT- eHAND_ fCLOSED_ gTAK gTUK fOPEN_ gDAG gDUG",
    "bPAMADA bPAMADA_ cLANTANG bPAMENENG bPANTI bPANTI_ cLANTANG bSIGN_ cBISAH cCECEK cREREKAN",
    "cSURANG cULU_ dCANDRA dRICEM bVOWEL_ cSIGN_ dLA_ eLENGA eLENGA_ fTEDUNG dPEPET dPEPET_",
    "eTEDUNG dRA_ eREPA eREPA_ fTEDUNG dSUKU dSUKU_ eILUT dTALING dTALING_ eREPA eREPA_ fTEDUNG",
    "eTEDUNG dTEDUNG dULU dULU_ eSARI bWINDU aBALLET_ bSHOES aBALLOON aBALLOON- bSPOKED_",
    "cASTERISK aBALLOT_ bBOLD_ cSCRIPT_ dX bBOX bBOX_ cWITH_ dBALLOT dBOLD_ eCHECK eSCRIPT_ fX",
    "dCHECK dLIGHT_ eX dSCRIPT_ eX dX bSCRIPT_ cX bX aBALL_ bOF_ cYARN aBAMUM_ bCOLON",
    "bCOMBINING_ cMARK_ dKOQNDON dTUKWENTIS bCOMMA bFULL_ cSTOP bLETTER_ cA cEE cFAAMAE cFEE",
    "cFOM cFU cI cKA cKEN cKET cKEUX cKI cKO cKOGHOM cKOVUU cKPA cKU cKYEE cLA cLEEEE cLI cLOQ",
    "cLU cM cMA cMBAA cMBEN cMEEEE cMEN cMI cMO cMU cNA cNDAA cNGA cNGGA cNGKWAEN cNI cNJAEM",
    "cNJEE cNJUAE cNSHA cNTEE cNTUU cNU cNUAE cNYI cO cPA cPEE cPEUX cPHASE- dA_ eFIRI eGBIEE_",
    "fFON eGHEUAEGHEUAE eGHEUAERAE eKAFA eKAQ eKET eKEUKEUTNDA eKPOQ eKUOQ eLAPAQ eLET_ fKUT",
    "eLOMMAE eLU eLUAEP eMAEKEUP eMAEM eMAEMBGBIEE eMAEMKPEN eMAEMVEUX eMAENYI eMAESI eMANSUAE",
    "eMAP_ fPIEET eMBANYI eMBAQ eMEUNJOMNDEUQ eMGBASA eMON_ fNGGEUAET eMOOMEUT eMOOMPUQ",
    "eMVEUAENGAM eNAA_ fMFON eNAQ eNDAANGGEUAET eNDA_ fLEERAEWA eNEN eNGANGU eNGGEN eNGKUENZEUM",
    "eNGKUE_ fMFON eNIKA eNJAM eNKAARAE eNKINDI eNSHA eNSHIEE eNTAP eNTAP_ fMFAA fNTAA eNTOQPEN",
    "eNYET eNYI eNYIT_ fMONGKEUAEQ eNZA_ fMFON eNZUN_ fMEUT ePAAM ePAARAE ePAMSHAE ePASHAE ePA_",
    "fLEERAEWA ePET ePON_ fMFON_ gPIPAEMBA gPIPAEMGBIEE fPA_ gNJI_ hPIPAEMBA hPIPAEMGBIEE ePUP",
    "eROM eSEUNYAM eSHINDA_ fPA_ gNJI eSHIRAE eSHOQ_ fNSHUT_ gYUM eSHUENSHUET eSHUM eSISA",
    "eSONJAM eSOQ eSOT eSUU eTEUAEN eTEUTEUWEN eTITA_ fMFON eTUAEP eTU_ fMAEMBA eUNKNOWN eU_",
    "fYUQ_ gNAE eVEE dB_ eFEE eFEUX eGHEUGHEN eGHEUGHEUAEM eKAM eKEUAEM eKEUPUQ eKEUYEUX eKIEEM",
    "eKIQ eLAANAE eLAM_ fNSHUT_ gNYAM eLET eLOM_ fNTEUM eMA eMA_ fNJEUAENA fNJUQA eMBAARAE eMBA_",
    "fMAELEE eMBEURI eMBIT_ fMBAAKET eMBUOQ eMEUQ eMEUT_ fNGGEET eMFIYAQ eMFON_ fTEUAEQ",
    "eMONTIEEN eNDU_ fNJAA eNGGAAM eNGGEU_ fMBU eNGGUOQ eNGGUOQ_ fLARGE eNGKINDI_ fMVOP eNGOM",
    "eNSEN eNSHUET eNTIEE_ fSHEUOQ eNYAEMAE eNYI_ fNTEUM ePARUM ePEESHI ePIT ePUNGAAM eSAKEUAE",
    "eSET_ fTU eSHET_ fNJAQ eSHEUAEQTU eSIEE eSUE eTAAM eTU_ fMAEMGBIEE fNSIEE eVEUM eWUAET",
    "eYAFU_ fLEERAEWA eYEURAE dC_ eBUNG eFUE eGBAYI eGHAP eGHARAE eKAA eKEN_ fFATIGUE fLAW eKET",
    "eKEUKAQ eKEUM eKEUSEUX eKEUSHEUAEP eKPARAQ eKUOP_ fNKAARAE eKUT eLAM eLAP eLIQ eLU eMAEMBA",
    "eMAESI eMA_ fKEUAERI fNSIEE eMBAA_ fCABBAGE- gTREE fPICKET eMBANYI eMBEEKEET eMBERAE eMBEUM",
    "eMBEUX eMBI eMBIRIEEN eMBIT eMBUAEM eMBUE eMGBASAQ eMIEE eMUAE eNANSANAQ eNAQ eNDAM eNDAP",
    "eNDEUAEREE eNDEUT eNDIDA eNDOMBU eNGAQ eNGGEN eNGGU eNGGUAEN_ fNYAM eNGGUEET eNGGUM eNGGUON",
    "eNGKAQ eNGKUE_ fMAEMBA eNGOM eNJAEM eNJAM eNJEEEE eNJEUX eNJUEQ eNSA eNSEUAEN eNSHAQ eNSOM",
    "eNSUN eNSUOT_ fNGOM eNTAA eNTEN eNTEUNGBA eNTU_ fMBIT eNYIR_ fMKPARAQ_ gMEUN eNZA eNZEUM",
    "ePEN ePIN ePIRIEEN eRU eSETFON eSEUX eSHIQ eSHUEQ eSUAET eTAASHAE eTET eTEUTEUX eTITA_ fYUE",
    "eTITUAEP eVEUAEPEN eVEUX eWANGKUOQ eWUP eYAA eYEUQ eYUM eYUWOQ eYU_ fMUOMAE dD_ eFAA",
    "eFEUFEUAET eGHAA eGHEUAE eKET eKEUAETMEUN eKEUM eKEUOT_ fMBUAE eKEUP eKU eKUN eKUOM eKUQ",
    "eKWAET eKYEE eLEEEE eLET eLEUAEP eLEUM eLIEE eLOQ eLUM eM eMAENJET eMALEERI eMBAA eMBAA_",
    "fSEVEN eMBUO eMEEEE eMEUN eMEUT eMFEUAE eMFEUT eMFIEE eMFO eMFON eMGBEUN eMGBIEE eMGBOFUM",
    "eMONI eMU eMVOP eNDAM eNDEE eNDEUX eNDON eNGGAAM eNGGAAMAE eNGGAP eNGGEUX eNGGUOM eNGGWAEN",
    "eNGKAP eNGKEUAEQ eNGKEURI eNGKIEE eNGKUN eNGKYEE eNI eNJAP eNJEUAEM eNJEUT eNJI eNJIEE",
    "eNJUEQ eNSHEE eNSHUT eNSIEEP eNSIEET eNSUM eNTEE eNTEUM eNTUU eNU eNYAM eNYET eNYI eNYUE",
    "ePAP ePEE ePEUTAE ePIP ePUQ ePUUT eRAEM eREN_ fMUCH fOLD eRII eSAP eSAQ eSEUAEQ eSHEE",
    "eSHEUAE eSHEUX eSHII eSHOQ eSHU eSOT eSUAE eSUE eSUU eTAE eTEEEE eTEUAEN eTEUN eTEUT eTI",
    "eTOQ eTU eTUOT eWAP eWUAEN eYAEMMAE eYEN eYUOM eYUOP eYUWOQ dE_ eA eFA eFAQ eFEE eFOM eFUE",
    "eFUET eFU_ fCALL fI fREMEDY eGBET eGBEUX eGHAAMAE eGHET eGHEUAE eGHEUN eGHEUX eGHOM eI eKET",
    "eKEUAE eKEUX eKI eKO eKPEUX eKUET eKUOP eKUT eLAAM eLAP eLAQ eLEUAEM eLOM eLOON eLOOT eLOQ",
    "eLU eMA eMAE eMAEM eMAP eMAQ eMBEE eMBEUM eMEN eMFEUQ eMGBA eMGBEN eMI eMIEE eMON eMUAE",
    "eMVI eNA eNAE eNDAA_ fMY_ gHOUSE fSOFTNESS eNDAP eNDIAQ eNDIQ eNDUN eNGA eNGEUREUT eNGGEEEE",
    "eNGGEUAE eNGGEUAET eNGGUAESHAE_ fNYAM eNGGUP eNGGURAE eNGKA eNGKAAMI eNGKEUAEM eNGKEUX",
    "eNGKUM eNGKUP eNGOP eNGOQ eNGUAE eNGUAET eNJAEMLI eNJEE eNJEE_ fEPOCH eNJEUX eNKOM eNSHIEE",
    "eNSHUE eNSHUOP eNTAP eNTUM eNYI_ fBETWEEN fCLEAVER eNZAQ eNZUQ eO ePAA ePAAM ePA_ fPEOPLE",
    "fPLURAL ePEEM ePEUT ePEUX ePI ePIEEQ ePIET ePO ePOON ePU ePUAE ePUAQ ePUE ePUM eRAE eRAQ",
    "eREUX eRIMGBA eSAA eSEE eSET eSHEUAEQ eSHIQ eSHO eSHOQ eSOM eSUAEN eTAA eTAAQ eTAEN_ fNTEUM",
    "eTAM eTAQ eTEN eTEU eTEUAEQ eTOO eTOON eTOQ eTUAE eTUM eTUMAE eVEE eVEUAE eVOM eWEUX eWUE",
    "eWUO eYAP eYEUAE eYEUAET eYEUM eYEUX eYIEE eYIT eYOQ_ fCOVER fSWIMMING eYUAEN eYUEQ eYUN",
    "eYUQ dF_ eEE eFOM eKA eKEN eKET eKO eKPA eKU eKYEE eLA eLI eLOQ eM eMA eMBAA eMBEN eMEEEE",
    "eMO eNDAA eNGGA eNGKWAEN eNI eNJAEM eNJUAE eNSHA eNTEE eNU eNUAE eNYI ePEE ePEUX ePUAE eREE",
    "eREN eREUX eRIEE eRII eRU eSAMBA eSEUX eSHII eSHO eSHU eSI eSUU eTAA eTAE eTET eU eVUEQ eWA",
    "eWUE eYA eYOQ cPI cPUAE cPUE cRAE cREE cREN cREUX cRIEE cRII cRU cSAMBA cSEUX cSHEUX cSHII",
    "cSHO cSHU cSI cSUU cTAA cTAE cTEN cTET cTI cU cWA cWUE cYA cYOQ cYUQ bNJAEMLI bQUESTION_",
    "cMARK bSEMICOLON aBANANA aBANJO aBANK aBANKNOTE_ bWITH_ cDOLLAR_ dSIGN cEURO_ dSIGN cPOUND_",
    "dSIGN cYEN_ dSIGN aBARBER_ bPOLE aBAR_ bCHART bOF_ cSOAP aBASEBALL aBASKET aBASKETBALL_",
    "bAND_ cHOOP aBASSA_ bVAH_ cCOMBINING_ dHIGH- eLOW_ fTONE dHIGH_ eTONE dLOW- eMID_ fTONE",
    "dLOW_ eTONE dMID_ eTONE cFULL_ dSTOP cLETTER_ dA dBA dCE dDHII dDO dE dEE dENNI dFA dGAH",
    "dGBU dHWAH dI dJO dKA dKPAH dMBE dO dOO dPA dSE dTO dU dUWU dVU dWA dWADDA dYEIN dYIE dZO",
    "aBAT aBATAK_ bCONSONANT_ cSIGN_ dH dNG bLETTER_ cA cBA cCA cDA cGA cHA cI cJA cKARO_ dBA",
    "cLA cMA cMANDAILING_ dHA dNA dSA cMBA cNA cNDA cNGA cNORTHERN_ dTA cNYA cPA cPAKPAK_ dWA",
    "cRA cSA cSIMALUNGUN_ dA dGA dHA dLA dMA dPA dRA dSA dWA dYA cSOUTHERN_ dTA cU cWA cYA",
    "bPANGOLAT bPANONGONAN bSIGN_ cTOMPI bSYMBOL_ cBINDU_ dJUDUL dNA_ eMETEK dPANGOLAT",
    "dPINARBORAS bVOWEL_ cSIGN_ dE dEE dI dKARO_ eI eO dO dPAKPAK_ eE dU dU_ eFOR_ fSIMALUNGUN_",
    "gSA aBATH aBATHTUB aBATTERY aBEACH_ bWITH_ cUMBRELLA aBEAMED_ bASCENDING_ cMUSICAL_ dNOTES",
    "bDESCENDING_ cMUSICAL_ dNOTES bEIGHTH_ cNOTES bSIXTEENTH_ cNOTES aBEANS aBEARDED_ bPERSON",
    "aBEAR_ bFACE aBEATING_ bHEART aBEAVER aBECAUSE aBED aBEER_ bMUG aBEETLE aBEL aBELL",
    "aBELLHOP_ bBELL aBELL_ bPEPPER bSYMBOL bWITH_ cCANCELLATION_ dSTROKE aBENGALI_",
    "bABBREVIATION_ cSIGN bANJI bAU_ cLENGTH_ dMARK bCURRENCY_ cDENOMINATOR_ dSIXTEEN",
    "cNUMERATOR_ dFOUR dONE dONE_ eLESS_ fTHAN_ gTHE_ hDENOMINATOR dTHREE dTWO bDIGIT_ cEIGHT",
    "cFIVE cFOUR cNINE cONE cSEVEN cSIX cTHREE cTWO cZERO bGANDA_ cMARK bISSHAR bLETTER_ cA cAA",
    "cAI cAU cBA cBHA cCA cCHA cDA cDDA cDDHA cDHA cE cGA cGHA cHA cI cII cJA cJHA cKA cKHA",
    "cKHANDA_ dTA cLA cMA cNA cNGA cNNA cNYA cO cPA cPHA cRA cRA_ dWITH_ eLOWER_ fDIAGONAL",
    "eMIDDLE_ fDIAGONAL cRHA cRRA cSA cSHA cSSA cTA cTHA cTTA cTTHA cU cUU cVEDIC_ dANUSVARA",
    "cVOCALIC_ dL dLL dR dRR cYA cYYA bRUPEE_ cMARK cSIGN bSANDHI_ cMARK bSIGN_ cANUSVARA",
    "cAVAGRAHA cCANDRABINDU cNUKTA cVIRAMA cVISARGA bVOWEL_ cSIGN_ dAA dAI dAU dE dI dII dO dU",
    "dUU dVOCALIC_ eL eLL eR eRR aBENTO_ bBOX aBENT_ bARROW_ cPOINTING_ dDOWNWARDS_ eTHEN_",
    "fNORTH_ gEAST aBENZENE_ bRING bRING_ cWITH_ dCIRCLE aBETWEEN aBET_ bSYMBOL aBEVERAGE_ bBOX",
    "aBHAIKSUKI_ bDANDA bDIGIT_ cEIGHT cFIVE cFOUR cNINE cONE cSEVEN cSIX cTHREE cTWO cZERO",
    "bDOUBLE_ cDANDA bGAP_ cFILLER- d1 d2 bHUNDREDS_ cUNIT_ dMARK bLETTER_ cA cAA cAI cAU cBA",
    "cBHA cCA cCHA cDA cDDA cDDHA cDHA cE cGA cGHA cHA cI cII cJA cJHA cKA cKHA cLA cMA cNA cNGA",
    "cNNA cNYA cO cPA cPHA cRA cSA cSHA cSSA cTA cTHA cTTA cTTHA cU cUU cVA cVOCALIC_ dL dR dRR",
    "cYA bNUMBER_ cEIGHT cEIGHTY cFIFTY cFIVE cFORTY cFOUR cNINE cNINETY cONE cSEVEN cSEVENTY",
    "cSIX cSIXTY cTEN cTHIRTY cTHREE cTWENTY cTWO bSIGN_ cANUSVARA cAVAGRAHA cCANDRABINDU",
    "cVIRAMA cVISARGA bVOWEL_ cSIGN_ dAA dAI dAU dE dI dII dO dU dUU dVOCALIC_ eL eR eRR bWORD_",
    "cSEPARATOR aBICYCLE aBICYCLIST aBIG_ bREVERSE_ cSOLIDUS bSOLIDUS aBIKINI aBILLED_ bCAP",
    "aBILLIARDS aBIOHAZARD_ bSIGN aBIRD aBIRTHDAY_ bCAKE aBISON aBITCOIN_ bSIGN aBITING_ bLIP",
    "aBLACK- bFEATHERED_ cNORTH_ dEAST_ eARROW cRIGHTWARDS_ dARROW cSOUTH_ dEAST_ eARROW",
    "bLETTER_ cCAPITAL_ dC dH dI dR dZ aBLACK_ bBOWTIE bCENTRE_ cWHITE_ dSTAR bCHESS_ cBISHOP",
    "cBISHOP_ dROTATED_ eNINETY_ fDEGREES eTWO_ fHUNDRED_ gSEVENTY_ hDEGREES cEQUIHOPPER",
    "cEQUIHOPPER_ dROTATED_ eNINETY_ fDEGREES cKING cKING_ dROTATED_ eNINETY_ fDEGREES eTWO_",
    "fHUNDRED_ gSEVENTY_ hDEGREES cKNIGHT cKNIGHT- dBISHOP dQUEEN dROOK cKNIGHT_ dROTATED_",
    "eFORTY- fFIVE_ gDEGREES eNINETY_ fDEGREES eONE_ fHUNDRED_ gTHIRTY- hFIVE_ iDEGREES eTHREE_",
    "fHUNDRED_ gFIFTEEN_ hDEGREES eTWO_ fHUNDRED_ gSEVENTY_ hDEGREES gTWENTY- hFIVE_ iDEGREES",
    "cPAWN cPAWN_ dROTATED_ eNINETY_ fDEGREES eTWO_ fHUNDRED_ gSEVENTY_ hDEGREES cQUEEN cQUEEN_",
    "dROTATED_ eNINETY_ fDEGREES eTWO_ fHUNDRED_ gSEVENTY_ hDEGREES cROOK cROOK_ dROTATED_",
    "eNINETY_ fDEGREES eTWO_ fHUNDRED_ gSEVENTY_ hDEGREES cTURNED_ dBISHOP dKING dKNIGHT dPAWN",
    "dQUEEN dROOK bCIRCLE bCIRCLE_ cFOR_ dRECORD cWITH_ dDOWN_ eARROW dTWO_ eWHITE_ fDOTS",
    "dWHITE_ eDOT_ fRIGHT bCLUB_ cSUIT bCROSS_ cON_ dSHIELD bCURVED_ cDOWNWARDS_ dAND_",
    "eLEFTWARDS_ fARROW eRIGHTWARDS_ fARROW cLEFTWARDS_ dAND_ eDOWNWARDS_ fARROW eUPWARDS_",
    "fARROW cRIGHTWARDS_ dAND_ eDOWNWARDS_ fARROW eUPWARDS_ fARROW cUPWARDS_ dAND_ eLEFTWARDS_",
    "fARROW eRIGHTWARDS_ fARROW bDIAMOND bDIAMOND_ cCENTRED cMINUS_ dWHITE_ eX cON_ dCROSS cSUIT",
    "cWITH_ dDOWN_ eARROW bDOWN- cPOINTING_ dDOUBLE_ eTRIANGLE dISOSCELES_ eRIGHT_ fTRIANGLE",
    "dSMALL_ eTRIANGLE dTRIANGLE bDOWNWARDS_ cEQUILATERAL_ dARROWHEAD bDOWN_ cPOINTING_",
    "dBACKHAND_ eINDEX bDRAUGHTS_ cKING cMAN bDROPLET bFLAG bFLORETTE bFOLDER bFOUR_ cPOINTED_",
    "dSTAR bHARD_ cSHELL_ dFLOPPY_ eDISK bHEART bHEART_ cSUIT bHEXAGON bHORIZONTAL_ cELLIPSE",
    "bHOURGLASS bLARGE_ cCIRCLE cSQUARE bLEFT- cPOINTING_ dDOUBLE_ eTRIANGLE eTRIANGLE_ fWITH_",
    "gVERTICAL_ hBAR dISOSCELES_ eRIGHT_ fTRIANGLE dPOINTER dSMALL_ eTRIANGLE dTRIANGLE",
    "bLEFTWARDS_ cBULLET cEQUILATERAL_ dARROWHEAD bLEFT_ cLANE_ dMERGE cPOINTING_ dBACKHAND_",
    "eINDEX dINDEX bLOWER_ cLEFT_ dTRIANGLE cRIGHT_ dTRIANGLE bLOZENGE bMEDIUM_ cDIAMOND cDOWN-",
    "dPOINTING_ eTRIANGLE eTRIANGLE_ fCENTRED cLEFT- dPOINTING_ eTRIANGLE eTRIANGLE_ fCENTRED",
    "cLOZENGE cRIGHT- dPOINTING_ eTRIANGLE eTRIANGLE_ fCENTRED cSMALL_ dDIAMOND dLOZENGE dSQUARE",
    "cSQUARE cUP- dPOINTING_ eTRIANGLE eTRIANGLE_ fCENTRED bMOON_ cLILITH bNIB bOCTAGON",
    "bPARALLELOGRAM bPENNANT bPENTAGON bPUSHPIN bQUESTION_ cMARK_ dORNAMENT bRECTANGLE bRIGHT-",
    "cPOINTING_ dDOUBLE_ eTRIANGLE eTRIANGLE_ fWITH_ gVERTICAL_ hBAR dISOSCELES_ eRIGHT_",
    "fTRIANGLE dPENTAGON dPOINTER dSMALL_ eTRIANGLE dTRIANGLE dTRIANGLE_ eWITH_ fDOUBLE_",
    "gVERTICAL_ hBAR bRIGHTWARDS_ cARROW cARROWHEAD cBULLET cEQUILATERAL_ dARROWHEAD bRIGHT_",
    "cPOINTING_ dBACKHAND_ eINDEX dINDEX bROSETTE bSAFETY_ cSCISSORS bSCISSORS bSHOGI_ cPIECE",
    "bSKULL_ cAND_ dCROSSBONES bSLIGHTLY_ cSMALL_ dCIRCLE dSQUARE bSMALL_ cDIAMOND cLOZENGE",
    "cSQUARE cSTAR bSMILING_ cFACE bSNOWMAN bSPADE_ cSUIT bSQUARE bSQUARE_ cBUTTON cCENTRED",
    "cFOR_ dSTOP bSTAR bSUN_ cWITH_ dRAYS bTELEPHONE bTINY_ cDIAMOND cLOZENGE cSQUARE",
    "bTOUCHTONE_ cTELEPHONE bTRUCK bTWO- cWAY_ dLEFT_ eWAY_ fTRAFFIC bUNIVERSAL_ cRECYCLING_",
    "dSYMBOL bUP- cPOINTING_ dDOUBLE_ eTRIANGLE dISOSCELES_ eRIGHT_ fTRIANGLE dSMALL_ eTRIANGLE",
    "dTRIANGLE bUPPER_ cLEFT_ dTRIANGLE cRIGHT_ dTRIANGLE bUPWARDS_ cEQUILATERAL_ dARROWHEAD",
    "bUP_ cPOINTING_ dBACKHAND_ eINDEX bVERTICAL_ cELLIPSE cRECTANGLE bVERY_ cSMALL_ dDIAMOND",
    "dLOZENGE dSQUARE aBLANK_ bSYMBOL aBLOCK_ bSEXTANT- c1 c12 c123 c1234 c12345 c12346 c1235",
    "c12356 c1236 c124 c1245 c12456 c1246 c125 c1256 c126 c13 c134 c1345 c13456 c1346 c1356 c136",
    "c14 c145 c1456 c146 c15 c156 c16 c2 c23 c234 c2345 c23456 c2346 c235 c2356 c236 c24 c245",
    "c2456 c25 c256 c26 c3 c34 c345 c3456 c346 c35 c356 c36 c4 c45 c456 c46 c5 c56 c6 aBLOSSOM",
    "aBLOWFISH aBLUEBERRIES aBLUE_ bBOOK bHEART aBOAR aBOLD_ bEIGHT_ cSPOKED_ dASTERISK bFIVE_",
    "cSPOKED_ dASTERISK bGREEK_ cCROSS bSALTIRE bSIX_ cSPOKED_ dASTERISK bWHITE_ cCIRCLE cSQUARE",
    "aBOM aBOMB aBONE aBOOK aBOOKMARK aBOOKMARK_ bTABS aBOOKS aBOOMERANG aBOPOMOFO_ bFINAL_",
    "cLETTER_ dG dH dK dP dT bLETTER_ cA cAH cAI cAINN cAM cAN cANG cANN cAU cAUNN cB cBU cC cCH",
    "cD cE cEE cEH cEI cEN cENG cENN cER cF cG cGH cGN cGU cGW cH cI cIH cIM cINN cINNN cIR cIU",
    "cJ cJI cK cKW cL cLH cM cN cNG cNGG cNN cO cOE cOM cONG cONN cOO cOU cO_ dWITH_ eDOT_",
    "fABOVE cP cQ cR cS cSH cT cU cUNN cV cX cZ cZH cZI cZY aBOTTLE_ bWITH_ cPOPPING_ dCORK",
    "aBOTTOM_ bARC_ cANTICLOCKWISE_ dARROW bCURLY_ cBRACKET bHALF_ cBLACK_ dCIRCLE cINTEGRAL",
    "cLEFT_ dPARENTHESIS cRIGHT_ dPARENTHESIS bLEFT_ cCORNER cCROP cHALF_ dBRACKET bPARENTHESIS",
    "bRIGHT_ cCORNER cCROP cHALF_ dBRACKET bSQUARE_ cBRACKET cBRACKET_ dOVER_ eTOP_ fSQUARE_",
    "gBRACKET bTORTOISE_ cSHELL_ dBRACKET aBOUQUET aBOUQUET_ bOF_ cFLOWERS aBOWLING aBOWL_ bOF_",
    "cHYGIEIA bWITH_ cSPOON aBOWTIE aBOWTIE_ bWITH_ cLEFT_ dHALF_ eBLACK cRIGHT_ dHALF_ eBLACK",
    "aBOW_ bAND_ cARROW aBOXING_ bGLOVE aBOX_ bDRAWINGS_ cDOUBLE_ dDOWN_ eAND_ fHORIZONTAL fLEFT",
    "fRIGHT dHORIZONTAL dUP_ eAND_ fHORIZONTAL fLEFT fRIGHT dVERTICAL dVERTICAL_ eAND_",
    "fHORIZONTAL fLEFT fRIGHT cDOWN_ dDOUBLE_ eAND_ fHORIZONTAL_ gSINGLE fLEFT_ gSINGLE fRIGHT_",
    "gSINGLE dHEAVY_ eAND_ fHORIZONTAL_ gLIGHT fLEFT_ gLIGHT gUP_ hLIGHT fRIGHT_ gLIGHT gUP_",
    "hLIGHT fUP_ gHORIZONTAL_ hLIGHT dLIGHT_ eAND_ fHORIZONTAL_ gHEAVY fLEFT_ gHEAVY gUP_ hHEAVY",
    "fRIGHT_ gHEAVY gUP_ hHEAVY fUP_ gHORIZONTAL_ hHEAVY dSINGLE_ eAND_ fHORIZONTAL_ gDOUBLE",
    "fLEFT_ gDOUBLE fRIGHT_ gDOUBLE cHEAVY_ dDOUBLE_ eDASH_ fHORIZONTAL fVERTICAL dDOWN dDOWN_",
    "eAND_ fHORIZONTAL fLEFT fRIGHT dHORIZONTAL dLEFT dLEFT_ eAND_ fLIGHT_ gRIGHT dQUADRUPLE_",
    "eDASH_ fHORIZONTAL fVERTICAL dRIGHT dTRIPLE_ eDASH_ fHORIZONTAL fVERTICAL dUP dUP_ eAND_",
    "fHORIZONTAL fLEFT fLIGHT_ gDOWN fRIGHT dVERTICAL dVERTICAL_ eAND_ fHORIZONTAL fLEFT fRIGHT",
    "cLEFT_ dDOWN_ eHEAVY_ fAND_ gRIGHT_ hUP_ iLIGHT dHEAVY_ eAND_ fRIGHT_ gDOWN_ hLIGHT gUP_",
    "hLIGHT gVERTICAL_ hLIGHT dLIGHT_ eAND_ fRIGHT_ gDOWN_ hHEAVY gUP_ hHEAVY gVERTICAL_ hHEAVY",
    "dUP_ eHEAVY_ fAND_ gRIGHT_ hDOWN_ iLIGHT cLIGHT_ dARC_ eDOWN_ fAND_ gLEFT gRIGHT eUP_ fAND_",
    "gLEFT gRIGHT dDIAGONAL_ eCROSS eDIAMOND eMIDDLE_ fLEFT_ gTO_ hLOWER_ iCENTRE iCENTRE_ jTO_",
    "kMIDDLE_ lRIGHT hUPPER_ iCENTRE_ jTO_ kMIDDLE_ lRIGHT lRIGHT_ mTO_ nLOWER_ oCENTRE fRIGHT_",
    "gTO_ hLOWER_ iCENTRE hUPPER_ iCENTRE_ jTO_ kMIDDLE_ lLEFT_ mTO_ nLOWER_ oCENTRE eUPPER_",
    "fCENTRE_ gTO_ hMIDDLE_ iLEFT iLEFT_ jAND_ kMIDDLE_ lRIGHT_ mTO_ nLOWER_ oCENTRE jTO_",
    "kLOWER_ lCENTRE lCENTRE_ mTO_ nMIDDLE_ oRIGHT iRIGHT iRIGHT_ jAND_ kMIDDLE_ lLEFT_ mTO_",
    "nLOWER_ oCENTRE jTO_ kLOWER_ lCENTRE lCENTRE_ mTO_ nMIDDLE_ oLEFT fLEFT_ gTO_ hLOWER_",
    "iRIGHT fRIGHT_ gTO_ hLOWER_ iLEFT dDOUBLE_ eDASH_ fHORIZONTAL fVERTICAL dDOWN dDOWN_ eAND_",
    "fHORIZONTAL fLEFT fRIGHT dHORIZONTAL dHORIZONTAL_ eWITH_ fVERTICAL_ gSTROKE dLEFT dLEFT_",
    "eAND_ fHEAVY_ gRIGHT dQUADRUPLE_ eDASH_ fHORIZONTAL fVERTICAL dRIGHT dTRIPLE_ eDASH_",
    "fHORIZONTAL fVERTICAL dUP dUP_ eAND_ fHEAVY_ gDOWN fHORIZONTAL fLEFT fRIGHT dVERTICAL",
    "dVERTICAL_ eAND_ fHORIZONTAL fLEFT fRIGHT cRIGHT_ dDOWN_ eHEAVY_ fAND_ gLEFT_ hUP_ iLIGHT",
    "dHEAVY_ eAND_ fLEFT_ gDOWN_ hLIGHT gUP_ hLIGHT gVERTICAL_ hLIGHT dLIGHT_ eAND_ fLEFT_",
    "gDOWN_ hHEAVY gUP_ hHEAVY gVERTICAL_ hHEAVY dUP_ eHEAVY_ fAND_ gLEFT_ hDOWN_ iLIGHT cUP_",
    "dDOUBLE_ eAND_ fHORIZONTAL_ gSINGLE fLEFT_ gSINGLE fRIGHT_ gSINGLE dHEAVY_ eAND_ fDOWN_",
    "gHORIZONTAL_ hLIGHT fHORIZONTAL_ gLIGHT fLEFT_ gDOWN_ hLIGHT gLIGHT fRIGHT_ gDOWN_ hLIGHT",
    "gLIGHT dLIGHT_ eAND_ fDOWN_ gHORIZONTAL_ hHEAVY fHORIZONTAL_ gHEAVY fLEFT_ gDOWN_ hHEAVY",
    "gHEAVY fRIGHT_ gDOWN_ hHEAVY gHEAVY dSINGLE_ eAND_ fHORIZONTAL_ gDOUBLE fLEFT_ gDOUBLE",
    "fRIGHT_ gDOUBLE cVERTICAL_ dDOUBLE_ eAND_ fHORIZONTAL_ gSINGLE fLEFT_ gSINGLE fRIGHT_",
    "gSINGLE dHEAVY_ eAND_ fHORIZONTAL_ gLIGHT fLEFT_ gLIGHT fRIGHT_ gLIGHT dLIGHT_ eAND_",
    "fHORIZONTAL_ gHEAVY fLEFT_ gHEAVY fRIGHT_ gHEAVY dSINGLE_ eAND_ fHORIZONTAL_ gDOUBLE fLEFT_",
    "gDOUBLE fRIGHT_ gDOUBLE aBOY aBOYS_ bSYMBOL aBPH aBRAHMI_ bDANDA bDIGIT_ cEIGHT cFIVE cFOUR",
    "cNINE cONE cSEVEN cSIX cTHREE cTWO cZERO bDOUBLE_ cDANDA bLETTER_ cA cAA cAI cAU cBA cBHA",
    "cCA cCHA cDA cDDA cDDHA cDHA cE cGA cGHA cHA cI cII cJA cJHA cKA cKHA cLA cLLA cMA cNA cNGA",
    "cNNA cNYA cO cOLD_ dTAMIL_ eLLA eLLLA eNNNA eRRA eSHORT_ fE fO cPA cPHA cRA cSA cSHA cSSA",
    "cTA cTHA cTTA cTTHA cU cUU cVA cVOCALIC_ dL dLL dR dRR cYA bNUMBER_ cEIGHT cEIGHTY cFIFTY",
    "cFIVE cFORTY cFOUR cJOINER cNINE cNINETY cONE cONE_ dHUNDRED dTHOUSAND cSEVEN cSEVENTY cSIX",
    "cSIXTY cTEN cTHIRTY cTHREE cTWENTY cTWO bPUNCTUATION_ cCRESCENT_ dBAR cDOT cDOUBLE_ dDOT",
    "cLINE cLOTUS bSIGN_ cANUSVARA cCANDRABINDU cJIHVAMULIYA cOLD_ dTAMIL_ eVIRAMA cUPADHMANIYA",
    "cVISARGA bVIRAMA bVOWEL_ cSIGN_ dAA dAI dAU dBHATTIPROLU_ eAA dE dI dII dO dOLD_ eTAMIL_",
    "fSHORT_ gE gO dU dUU dVOCALIC_ eL eLL eR eRR aBRAILLE_ bPATTERN_ cBLANK cDOTS- d1 d12 d123",
    "d1234 d12345 d123456 d1234567 d12345678 d1234568 d123457 d1234578 d123458 d12346 d123467",
    "d1234678 d123468 d12347 d123478 d12348 d1235 d12356 d123567 d1235678 d123568 d12357 d123578",
    "d12358 d1236 d12367 d123678 d12368 d1237 d12378 d1238 d124 d1245 d12456 d124567 d1245678",
    "d124568 d12457 d124578 d12458 d1246 d12467 d124678 d12468 d1247 d12478 d1248 d125 d1256",
    "d12567 d125678 d12568 d1257 d12578 d1258 d126 d1267 d12678 d1268 d127 d1278 d128 d13 d134",
    "d1345 d13456 d134567 d1345678 d134568 d13457 d134578 d13458 d1346 d13467 d134678 d13468",
    "d1347 d13478 d1348 d135 d1356 d13567 d135678 d13568 d1357 d13578 d1358 d136 d1367 d13678",
    "d1368 d137 d1378 d138 d14 d145 d1456 d14567 d145678 d14568 d1457 d14578 d1458 d146 d1467",
    "d14678 d1468 d147 d1478 d148 d15 d156 d1567 d15678 d1568 d157 d1578 d158 d16 d167 d1678",
    "d168 d17 d178 d18 d2 d23 d234 d2345 d23456 d234567 d2345678 d234568 d23457 d234578 d23458",
    "d2346 d23467 d234678 d23468 d2347 d23478 d2348 d235 d2356 d23567 d235678 d23568 d2357",
    "d23578 d2358 d236 d2367 d23678 d2368 d237 d2378 d238 d24 d245 d2456 d24567 d245678 d24568",
    "d2457 d24578 d2458 d246 d2467 d24678 d2468 d247 d2478 d248 d25 d256 d2567 d25678 d2568 d257",
    "d2578 d258 d26 d267 d2678 d268 d27 d278 d28 d3 d34 d345 d3456 d34567 d345678 d34568 d3457",
    "d34578 d3458 d346 d3467 d34678 d3468 d347 d3478 d348 d35 d356 d3567 d35678 d3568 d357 d3578",
    "d358 d36 d367 d3678 d368 d37 d378 d38 d4 d45 d456 d4567 d45678 d4568 d457 d4578 d458 d46",
    "d467 d4678 d468 d47 d478 d48 d5 d56 d567 d5678 d568 d57 d578 d58 d6 d67 d678 d68 d7 d78 d8",
    "aBRAIN aBREAD aBREAK_ bPERMITTED_ cHERE aBREAST- bFEEDING aBREVE aBRICK aBRIDE_ bWITH_",
    "cVEIL aBRIDGE_ bAT_ cNIGHT aBRIEFCASE aBRIEFS aBROCCOLI aBROKEN_ bBAR bCIRCLE_ cWITH_",
    "dNORTHWEST_ eARROW bHEART aBROOM aBROWN_ bHEART aBS aBUBBLES aBUBBLE_ bTEA aBUCKET aBUG",
    "aBUGINESE_ bEND_ cOF_ dSECTION bLETTER_ cA cBA cCA cDA cGA cHA cJA cKA cLA cMA cMPA cNA",
    "cNGA cNGKA cNRA cNYA cNYCA cPA cRA cSA cTA cVA cYA bPALLAWA bVOWEL_ cSIGN_ dAE dE dI dO dU",
    "aBUHID_ bLETTER_ cA cBA cDA cGA cHA cI cKA cLA cMA cNA cNGA cPA cRA cSA cTA cU cWA cYA",
    "bVOWEL_ cSIGN_ dI dU aBUILDING_ bCONSTRUCTION aBULLET aBULLET_ bOPERATOR aBULLHORN",
    "aBULLHORN_ bWITH_ cSOUND_ dWAVES aBULLSEYE aBURRITO aBUS aBUSTS_ bIN_ cSILHOUETTE aBUST_",
    "bIN_ cSILHOUETTE aBUS_ bSTOP aBUTTER aBUTTERFLY aBYTE_ bORDER_ cMARK aBYZANTINE_ bMUSICAL_",
    "cSYMBOL_ dAGOGI_ eARGI eARGOTERI eGORGI eGORGOTERI eMESI eMETRIA ePOLI_ fARGI fGORGI",
    "dANATRICHISMA dANTIKENOKYLISMA dANTIKENOMA dAPESO_ eEKFONITIKON eEXO_ fNEO dAPLI dAPODERMA_",
    "eARCHAION eNEO dAPOSTROFOI_ eSYNDESMOS_ fNEO eTELOUS_ fICHIMATOS dAPOSTROFOS dAPOSTROFOS_",
    "eDIPLI eNEO dAPOTHEMA dARGON dARGOSYNTHETON dARKTIKO_ eDI eGA eKE eNI ePA eVOU eZO dCHAMILI",
    "dCHAMILON dCHOREVMA_ eARCHAION eNEO dCHROA_ eKLITON eSPATHI eZYGOS dDASEIA dDIARGON",
    "dDIASTOLI_ eAPLI_ fMEGALI fMIKRI eDIPLI eTHESEOS dDIESIS_ eAPLI_ fDYO_ gDODEKATA",
    "eDIGRAMMOS_ fEX_ gDODEKATA eMONOGRAMMOS_ fTESSERA_ gDODEKATA eTETARTIMORION eTRIGRAMMOS_",
    "fOKTO_ gDODEKATA eTRITIMORION dDIFTOGGOS_ eOU dDIGORGON dDIGORGON_ ePARESTIGMENON_",
    "fARISTERA_ gANO gKATO fDEXIA dDIGRAMMA_ eGG dDIPLI dDIPLI_ eARCHAION dDYO dEKSTREPTON",
    "dELAFRON dENARXIS_ eKAI_ fFTHORA_ gVOU dENDOFONON dEPEGERMA dETERON_ eARGOSYNTHETON",
    "ePARAKALESMA dEXO_ eEKFONITIKON dFANEROSIS_ eDIFONIAS eMONOFONIAS eTETRAFONIAS dFHTORA_",
    "eSKLIRON_ fCHROMA_ gVASIS dFTHORA_ eARCHAION eARCHAION_ fDEYTEROU_ gICHOU eDIATONIKI_ fDI",
    "fKE fNANA fNI_ gANO gKATO fPA fZO eENARMONIOS_ fANTIFONIA eI_ fYFESIS_ gTETARTIMORION",
    "eMALAKON_ fCHROMA_ gDIFONIAS gMONOFONIAS eNAOS_ fICHOS eNENANO eSKLIRON_ fCHROMA_ gSYNAFI",
    "gVASIS fDIATONON_ gDI dGENIKI_ eDIESIS eYFESIS dGORGON_ eARCHAION eNEO_ fANO fKATO",
    "ePARESTIGMENON_ fARISTERA fDEXIA dGORGOSYNTHETON dGORTHMIKON_ eN_ fAPLOUN fDIPLOUN",
    "dGRONTHISMATA dICHADIN dIMIDIARGON dIMIFONON dIMIFTHORA dIMIFTHORON dISAKIA_ eTELOUS_",
    "fICHIMATOS dISON_ eARCHAION eNEO dKATAVASMA dKATAVA_ eTROMIKON dKATHISTI dKENTIMATA",
    "dKENTIMATA_ eARCHAION eNEO_ fANO fKATO fMESO dKENTIMA_ eARCHAION eNEO_ fANO fKATO fMESO",
    "dKLASMA dKLASMA_ eANO eKATO dKONTEVMA dKONTEVMA_ eALLO dKORONIS dKOUFISMA dKRATIMATA",
    "dKRATIMA_ eALLO eARCHAION eNEO dKRATIMOKOUFISMA dKRATIMOYPORROON dKREMASTI dKYLISMA",
    "dLEIMMA_ eDYO_ fCHRONON eENOS_ fCHRONOU eIMISEOS_ fCHRONOU eTESSARON_ fCHRONON eTRION_",
    "fCHRONON dLEMOI dLYGISMA dMARTYRIA_ eALLI_ fDEYTEROS_ gICHOS fPROTOS_ gICHOS eDEYTEROS_",
    "fICHOS eLEGETOS_ fICHOS ePLAGIOS_ fICHOS fTETARTOS_ gICHOS ePROTOS_ fICHOS ePROTOVARYS_",
    "fICHOS eTETARTOS_ fICHOS fLEGETOS_ gICHOS eTRIFONIAS eTRITOS_ fICHOS eVARYS_ fICHOS",
    "dMIKRON_ eISON dNANA dOLIGON_ eARCHAION eNEO dOMALON dOXEIAI_ eARCHAION dOXEIA_ eDIPLI",
    "eEKFONITIKON eNEO dOYRANISMA_ eARCHAION eNEO dPARAKALESMA_ eARCHAION eNEO dPARAKLITIKI",
    "dPARAKLITIKI_ eARCHAION eNEO dPARICHON dPELASTON dPELASTON_ eNEO dPERISPOMENI dPETASMA",
    "dPETASTI dPETASTOKOUFISMA dPIASMA_ eARCHAION eNEO dPSIFISTOLYGISMA dPSIFISTON dPSIFISTON_",
    "eNEO dPSIFISTOPARAKALESMA dPSIFISTOSYNAGMA dPSILI dPSILON dRAPISMA dREVMA dSAXIMATA dSEISMA",
    "dSEISMA_ eNEO dSIMANSIS_ eARSEOS eARSEOS_ fDISIMOU fTETRASIMOU fTRISIMOU eTHESEOS eTHESEOS_",
    "fDISIMOU fTETRASIMOU fTRISIMOU dSTAVROS dSTAVROS_ eAPODEXIA dSTIGMA dSTRAGGISMATA dSYNAGMA_",
    "eARCHAION eMETA_ fSTAVROU eNEO dSYNEVMA dSYRMA dSYRMATIKI dTELEIA dTESSERA dTETRAPLI dTHEMA",
    "dTHEMATISMOS_ eESO eEXO dTHEMA_ eAPLOUN dTHES_ eKAI_ fAPOTHES dTHITA dTINAGMA dTRIA",
    "dTRIGORGON dTRIPLI dTROMIKOLYGISMA dTROMIKON_ eALLO eARCHAION eNEO dTROMIKOPARAKALESMA",
    "dTROMIKOPSIFISTON dTROMIKOSYNAGMA dVAREIAI_ eARCHAION dVAREIA_ eDIPLI eEKFONITIKON eNEO",
    "dVATHY dXIRON_ eKLASMA dYFEN_ eANO eKATO dYFESIS_ eAPLI_ fDYO_ gDODEKATA eDIGRAMMOS_ fEX_",
    "gDODEKATA eMONOGRAMMOS_ fTESSERA_ gDODEKATA eTRIGRAMMOS_ fOKTO_ gDODEKATA eTRITIMORION",
    "dYPOKRISIS dYPOKRISIS_ eDIPLI dYPORROI dYPSILI"]

end GoMetrics.Text.CharName
