/-!
Names of characters that begin with the letters O to R, as a tree of their words (Unicode 14).
-/

namespace GoMetrics.Text.CharName

def namesOToR : List String :=
  ["aOBJECT_ bREPLACEMENT_ cCHARACTER aOBLIQUE_ bANGLE_ cOPENING_ dDOWN dUP bHYPHEN aOBSERVER_",
    "bEYE_ cSYMBOL aOCR_ bAMOUNT_ cOF_ dCHECK bBELT_ cBUCKLE bBOW_ cTIE bBRANCH_ cBANK_",
    "dIDENTIFICATION bCHAIR bCUSTOMER_ cACCOUNT_ dNUMBER bDASH bDOUBLE_ cBACKSLASH bFORK bHOOK",
    "bINVERTED_ cFORK aOCTAGONAL_ bSIGN aOCTOPUS aODEN aOFFICE_ bBUILDING aOGHAM_ bFEATHER_",
    "cMARK bLETTER_ cAILM cBEITH cCEIRT cCOLL cDAIR cEABHADH cEADHADH cEAMHANCHOLL cFEARN cGORT",
    "cIFIN cIODHADH cLUIS cMUIN cNGEADAL cNION cONN cOR cPEITH cRUIS cSAIL cSTRAIF cTINNE cUATH",
    "cUILLEANN cUR bREVERSED_ cFEATHER_ dMARK bSPACE_ cMARK aOGONEK aOHM_ bSIGN aOIL_ bDRUM aOK_",
    "bHAND_ cSIGN aOLDER_ bADULT bMAN bWOMAN aOLD_ bCHINESE_ cHOOK_ dMARK cITERATION_ dMARK",
    "bHUNGARIAN_ cCAPITAL_ dLETTER_ eA eAA eAK eAMB eAND eCLOSE_ fE eE eEB eEC eECH eECS eED eEE",
    "eEF eEG eEGY eEH eEJ eEK eEL eELY eEM eEMP eEN eENC eENT eENT- fSHAPED_ gSIGN eENY eEP eER",
    "eES eESZ eET eETY eEV eEZ eEZS eI eII eNIKOLSBURG_ fOE fUE eO eOEE eOO eRUDIMENTA_ fOE fUE",
    "eSHORT_ fER eU eUNK eUS eUU cNUMBER_ dFIFTY dFIVE dONE dONE_ eHUNDRED eTHOUSAND dTEN",
    "cSMALL_ dLETTER_ eA eAA eAK eAMB eAND eCLOSE_ fE eE eEB eEC eECH eECS eED eEE eEF eEG eEGY",
    "eEH eEJ eEK eEL eELY eEM eEMP eEN eENC eENT eENT- fSHAPED_ gSIGN eENY eEP eER eES eESZ eET",
    "eETY eEV eEZ eEZS eI eII eNIKOLSBURG_ fOE fUE eO eOEE eOO eRUDIMENTA_ fOE fUE eSHORT_ fER",
    "eU eUNK eUS eUU bITALIC_ cLETTER_ dA dBE dCHE dDE dE dEF dEKS dEL dEM dEN dER dERS dES dESH",
    "dESS dHE dI dII dKA dKE dKHE dKU dNORTHERN_ eTSE dO dPE dPHE dSHE dSOUTHERN_ eTSE dTE dTHE",
    "dU dUU dVE dYE dZE cNUMERAL_ dFIFTY dFIVE dONE dTEN bKEY bNORTH_ cARABIAN_ dLETTER_ eAIN",
    "eALEF eBEH eDAD eDAL eES- f1 f2 f3 eFEH eGEEM eGHAIN eHAH eHEH eKAF eKHAH eLAM eMEEM eNOON",
    "eQAF eREH eSAD eTAH eTEH eTHAL eTHEH eWAW eYEH eZAH eZAIN dNUMBER_ eONE eTEN eTWENTY",
    "bPERMIC_ cLETTER_ dAN dBUR dCHERY dDOI dDZHOI dDZITA dE dEF dGAI dHA dI dIA dIE dKOKE dLEI",
    "dMENOE dNENOE dO dOO dPEEI dREI dSHCHOOI dSHOOI dSII dTAI dTSIU dU dVER dVOOI dYA dYAT dYER",
    "dYERI dYERU dYRY dYU dZATA dZHOI bPERSIAN_ cNUMBER_ dHUNDRED dONE dTEN dTWENTY dTWO cSIGN_",
    "dA dAURAMAZDAA dAURAMAZDAA- e2 dAURAMAZDAAHA dBA dBAGA dBUUMISH dCA dDA dDAHYAAUSH",
    "dDAHYAAUSH- e2 dDI dDU dFA dGA dGU dHA dI dJA dJI dKA dKU dLA dMA dMI dMU dNA dNU dPA dRA",
    "dRU dSA dSHA dSSA dTA dTHA dTU dU dVA dVI dXA dXSHAAYATHIYA dYA dZA cWORD_ dDIVIDER",
    "bPERSONAL_ cCOMPUTER bSOGDIAN_ cFRACTION_ dONE_ eHALF cLETTER_ dALEPH dALTERNATE_ eAYIN",
    "dAYIN dBETH dFINAL_ eALEPH eBETH eHE eNUN eNUN_ fWITH_ gVERTICAL_ hTAIL eSADHE eSADHE_",
    "fWITH_ gVERTICAL_ hTAIL eTAW eTAW_ fWITH_ gVERTICAL_ hTAIL dGIMEL dHE dHETH dKAPH dLAMEDH",
    "dMEM dNUN dPE dRESH- eAYIN- fDALETH dSADHE dSAMEKH dSHIN dTAW dWAW dYODH dZAYIN cLIGATURE_",
    "dAYIN- eDALETH cNUMBER_ dFIVE dFOUR dONE dONE_ eHUNDRED dTEN dTHIRTY dTHREE dTWENTY dTWO",
    "bSOUTH_ cARABIAN_ dLETTER_ eALEF eAYN eBETH eDALETH eDHADHE eDHALETH eFE eGHAYN eGIMEL eHE",
    "eHETH eKAPH eKHETH eLAMEDH eMEM eNUN eQOPH eRESH eSADHE eSAMEKH eSAT eSHIN eTAW eTETH eTHAW",
    "eTHETH eWAW eYODH eZAYN dNUMBER_ eFIFTY eONE dNUMERIC_ eINDICATOR bTURKIC_ cLETTER_",
    "dORKHON_ eA eAB eAD eAEB eAED eAEG eAEK eAEL eAEN eAER eAES eAET eAEY eAG eAL eAN eAQ eAR",
    "eAS eASH eAT eAY eBASH eEC eELT eEM eENC eENG eENT eENY eEP eESH eEZ eI eIC eIQ eO eOE eOEK",
    "eOP eOQ eOT dYENISEI_ eA eAB eAD eAE eAEB eAEG eAEK eAEN eAENG eAET eAEY eAG eAL eANG eAQ",
    "eAR eASH eAT eAY eE eEC eENC eENT eENY eESH eEZ eI eIQ eOE eOEK eOQ bUYGHUR_ cCOMBINING_",
    "dDOT_ eABOVE eBELOW dTWO_ eDOTS_ fABOVE fBELOW cLETTER_ dALEPH dBETH dFINAL_ eHETH dGIMEL-",
    "eHETH dKAPH dLAMEDH dLESH dMEM dNUN dPE dRESH dSADHE dSAMEKH dSHIN dTAW dWAW dYODH dZAYIN",
    "cPUNCTUATION_ dBAR dFOUR_ eDOTS dTWO_ eBARS eDOTS aOLIVE aOL_ bCHIKI_ cAHAD cDIGIT_ dEIGHT",
    "dFIVE dFOUR dNINE dONE dSEVEN dSIX dTHREE dTWO dZERO cGAAHLAA_ dTTUDDAAG cLETTER_ dAAJ dAAK",
    "dAAM dAAW dAG dAL dANG dAT dEDD dEN dEP dERR dIH dINY dIR dIS dLA dLAA dLE dLI dLO dLU dOB",
    "dOH dOTT dOV dUC dUD dUNN dUY cMU- dGAAHLAA_ eTTUDDAAG cMU_ dTTUDDAG cPHAARKAA",
    "cPUNCTUATION_ dDOUBLE_ eMUCAAD dMUCAAD cRELAA aOM_ bSYMBOL aONCOMING_ bAUTOMOBILE bBUS",
    "bFIRE_ cENGINE bPOLICE_ cCAR bTAXI aONE- bPIECE_ cSWIMSUIT aONE_ bBUTTON_ cMOUSE bDOT_",
    "cLEADER cOVER_ dTWO_ eDOTS_ fPUNCTUATION aONION aON_ bWITH_ cEXCLAMATION_ dMARK_ eWITH_",
    "fLEFT_ gRIGHT_ hARROW_ iABOVE aOPEN- bCIRCUIT- cOUTPUT_ dH- eTYPE_ fSYMBOL dL- eTYPE_",
    "fSYMBOL bOUTLINED_ cRIGHTWARDS_ dARROW aOPEN_ bBOOK bBOX bCENTRE_ cASTERISK cBLACK_ dSTAR",
    "cCROSS cTEARDROP- dSPOKED_ eASTERISK bFILE_ cFOLDER bFOLDER bHANDS_ cSIGN bLOCK bMAILBOX_",
    "cWITH_ dLOWERED_ eFLAG dRAISED_ eFLAG bSUBSET bSUPERSET aOPERATING_ bSYSTEM_ cCOMMAND",
    "aOPHIUCHUS aOPPOSITION aOPTICAL_ bDISC bDISC_ cICON aOPTION_ bKEY aORANGE_ bBOOK bHEART",
    "aORANGUTAN aORIGINAL_ bOF aORIYA_ bAI_ cLENGTH_ dMARK bAU_ cLENGTH_ dMARK bDIGIT_ cEIGHT",
    "cFIVE cFOUR cNINE cONE cSEVEN cSIX cTHREE cTWO cZERO bFRACTION_ cONE_ dEIGHTH dHALF",
    "dQUARTER dSIXTEENTH cTHREE_ dQUARTERS dSIXTEENTHS bISSHAR bLETTER_ cA cAA cAI cAU cBA cBHA",
    "cCA cCHA cDA cDDA cDDHA cDHA cE cGA cGHA cHA cI cII cJA cJHA cKA cKHA cLA cLLA cMA cNA cNGA",
    "cNNA cNYA cO cPA cPHA cRA cRHA cRRA cSA cSHA cSSA cTA cTHA cTTA cTTHA cU cUU cVA cVOCALIC_",
    "dL dLL dR dRR cWA cYA cYYA bSIGN_ cANUSVARA cAVAGRAHA cCANDRABINDU cNUKTA cOVERLINE cVIRAMA",
    "cVISARGA bVOWEL_ cSIGN_ dAA dAI dAU dE dI dII dO dU dUU dVOCALIC_ eL eLL eR eRR aORNATE_",
    "bLEFT_ cPARENTHESIS bRIGHT_ cPARENTHESIS aORTHODOX_ bCROSS aOR_ bWITH_ cDOT_ dINSIDE",
    "aOSAGE_ bCAPITAL_ cLETTER_ dA dAH dAI dAIN dBRA dCHA dDHA dE dEHCHA dEHKA dEHPA dEHTA",
    "dEHTSA dEIN dGHA dHA dHYA dI dKA dKHA dKYA dLA dMA dNA dO dOIN dPA dSA dSHA dTA dTSA dTSHA",
    "dU dWA dZA dZHA bSMALL_ cLETTER_ dA dAH dAI dAIN dBRA dCHA dDHA dE dEHCHA dEHKA dEHPA dEHTA",
    "dEHTSA dEIN dGHA dHA dHYA dI dKA dKHA dKYA dLA dMA dNA dO dOIN dPA dSA dSHA dTA dTSA dTSHA",
    "dU dWA dZA dZHA aOSC aOSMANYA_ bDIGIT_ cEIGHT cFIVE cFOUR cNINE cONE cSEVEN cSIX cTHREE",
    "cTWO cZERO bLETTER_ cA cAA cALEF cBA cCAYN cDEEL cDHA cE cEE cFA cGA cHA cI cJA cKAAF cKHA",
    "cLAAN cMIIN cNUUN cO cOO cQAAF cRA cSA cSHIIN cTA cU cWAW cXA cYA aOTTER aOTTOMAN_ bSIYAQ_",
    "cALTERNATE_ dNUMBER_ eEIGHT eFIVE eFOUR eFOUR_ fHUNDRED eNINE eSEVEN eSIX eSIX_ fHUNDRED",
    "eTEN eTEN_ fTHOUSAND eTHREE eTWO eTWO_ fTHOUSAND cFRACTION_ dONE_ eHALF eSIXTH cMARRATAN",
    "cNUMBER_ dEIGHT dEIGHTY dEIGHTY_ eTHOUSAND dEIGHT_ eHUNDRED eTHOUSAND dFIFTY dFIFTY_",
    "eTHOUSAND dFIVE dFIVE_ eHUNDRED eTHOUSAND dFORTY dFORTY_ eTHOUSAND dFOUR dFOUR_ eHUNDRED",
    "eTHOUSAND dNINE dNINETY dNINETY_ eTHOUSAND dNINE_ eHUNDRED eTHOUSAND dONE dONE_ eHUNDRED",
    "eTHOUSAND dSEVEN dSEVENTY dSEVENTY_ eTHOUSAND dSEVEN_ eHUNDRED eTHOUSAND dSIX dSIXTY",
    "dSIXTY_ eTHOUSAND dSIX_ eHUNDRED eTHOUSAND dTEN dTEN_ eTHOUSAND dTHIRTY dTHIRTY_ eTHOUSAND",
    "dTHREE dTHREE_ eHUNDRED eTHOUSAND dTWENTY dTWENTY_ eTHOUSAND dTWO dTWO_ eHUNDRED eTHOUSAND",
    "aOUNCE_ bSIGN aOUTBOX_ bTRAY aOUTLINED_ bBLACK_ cSTAR bGREEK_ cCROSS bLATIN_ cCROSS bWHITE_",
    "cSTAR aOVERHEATED_ bFACE aOVERLAP aOVERLAPPING_ bBLACK_ cSQUARES bWHITE_ cAND_ dBLACK_",
    "eSQUARES cSQUARES aOVERLINE aOWL aOX aOYSTER aPACKAGE aPAD aPADDING_ bCHARACTER aPAGE",
    "aPAGER aPAGES aPAGE_ bFACING_ cUP bWITH_ cCIRCLED_ dTEXT cCURL aPAGODA aPAHAWH_ bHMONG_",
    "cCLAN_ dSIGN_ eFAJ eHAM eHAWJ eKHAB eKOO eKWM eLAUJ eLIS eMUAS ePHAB eTHOJ eTSAB eTSHEEJ",
    "eTSWB eVAJ eVWJ eXYOOJ eYAJ eYEEG cCONSONANT_ dAU dCAU dCHAU dHAU dHLAU dHNAU dLAU dMAU",
    "dNAU dNCHAU dNKAU dNLAU dNTHAU dNTSAU dPLHAU dQHAU dRAU dVAU dXAU dYAU cDIGIT_ dEIGHT dFIVE",
    "dFOUR dNINE dONE dSEVEN dSIX dTHREE dTWO dZERO cMARK_ dCIM_ eHOM eKES eKHAV eSO eSUAM eTAUM",
    "eTUB cNUMBER_ dHUNDREDS dHUNDRED_ eMILLIONS dMILLIONS dTENS dTEN_ eBILLIONS eTHOUSANDS",
    "dTRILLIONS cSIGN_ dAV dCIM_ eCHEEM eCUAM_ fTSHOOJ eHAIS_ fLUS_ gNTOG_ hNTOG eNRES_ fTOS",
    "ePUB_ fDAWB eTSOV_ fROG eTXWV eTXWV_ fCHWV dHLI dHNUB dIB_ eYAM dLOS dMEEJ_ eSUAB eTSEEB",
    "dMUS dNQIG dNTUJ dTAU dTHIRD- eSTAGE_ fHLI dTXHEEJ_ eCEEV dVOS_ eFEEM eLUB eNRUA eSEEV",
    "eTHIAB eTHOM eTSHAB_ fCEEB dXAUS dXIAB dXYEEM_ eFAIB eNTXIV eRHO eTOV dXYOO dZWJ_ eTHAJ",
    "cVOWEL_ dKAAB dKAAV dKAB dKAIB dKAIV dKAUB dKAUV dKAV dKAWB dKAWV dKEB dKEEB dKEEV dKEV",
    "dKIAB dKIAV dKIB dKIV dKOB dKOOB dKOOV dKOV dKUAB dKUAV dKUB dKUV dKWB dKWV aPALLAS aPALMS_",
    "bUP_ cTOGETHER aPALMYRENE_ bLEFT- cPOINTING_ dFLEURON bLETTER_ cALEPH cAYIN cBETH cDALETH",
    "cFINAL_ dNUN cGIMEL cHE cHETH cKAPH cLAMEDH cMEM cNUN cPE cQOPH cRESH cSADHE cSAMEKH cSHIN",
    "cTAW cTETH cWAW cYODH cZAYIN bNUMBER_ cFIVE cFOUR cONE cTEN cTHREE cTWENTY cTWO bRIGHT-",
    "cPOINTING_ dFLEURON aPALM_ bBRANCH bDOWN_ cHAND bTREE bUP_ cHAND aPANCAKES aPANDA_ bFACE",
    "aPAPERCLIP aPARACHUTE aPARAGRAPHOS aPARAGRAPHUS_ bMARK aPARAGRAPH_ bSEPARATOR aPARALLEL_",
    "bTO bWITH_ cHORIZONTAL_ dSTROKE cTILDE_ dOPERATOR aPARENTHESIZED_ bDIGIT_ cEIGHT cFIVE",
    "cFOUR cNINE cONE cSEVEN cSIX cTHREE cTWO bHANGUL_ cCHIEUCH cCHIEUCH_ dA cCIEUC cCIEUC_ dA",
    "dU cHIEUH cHIEUH_ dA cIEUNG cIEUNG_ dA cKHIEUKH cKHIEUKH_ dA cKIYEOK cKIYEOK_ dA cMIEUM",
    "cMIEUM_ dA cNIEUN cNIEUN_ dA cPHIEUPH cPHIEUPH_ dA cPIEUP cPIEUP_ dA cRIEUL cRIEUL_ dA",
    "cSIOS cSIOS_ dA cTHIEUTH cTHIEUTH_ dA cTIKEUT cTIKEUT_ dA bIDEOGRAPH_ cALLIANCE cCALL",
    "cCONGRATULATION cEARTH cEIGHT cENTERPRISE cFESTIVAL cFINANCIAL cFIRE cFIVE cFOUR cHAVE",
    "cLABOR cMETAL cMOON cNAME cNINE cONE cREACH cREPRESENT cRESOURCE cREST cSELF cSEVEN cSIX",
    "cSOCIETY cSPECIAL cSTOCK cSTUDY cSUN cSUPERVISE cTEN cTHREE cTWO cWATER cWOOD bKOREAN_",
    "cCHARACTER_ dOJEON dO_ eHU bLATIN_ cCAPITAL_ dLETTER_ eA eB eC eD eE eF eG eH eI eJ eK eL",
    "eM eN eO eP eQ eR eS eT eU eV eW eX eY eZ cSMALL_ dLETTER_ eA eB eC eD eE eF eG eH eI eJ eK",
    "eL eM eN eO eP eQ eR eS eT eU eV eW eX eY eZ bNUMBER_ cEIGHTEEN cELEVEN cFIFTEEN cFOURTEEN",
    "cNINETEEN cSEVENTEEN cSIXTEEN cTEN cTHIRTEEN cTWELVE cTWENTY aPARROT aPARTIALLY- bRECYCLED_",
    "cPAPER_ dSYMBOL aPARTIAL_ bDIFFERENTIAL bLINE_ cBACKWARD cDOWN cFORWARD cUP aPARTNERSHIP_",
    "bSIGN aPARTY_ bPOPPER aPART_ bALTERNATION_ cMARK aPASSED_ bSYMBOL aPASSENGER_ bSHIP",
    "aPASSIVE- bPULL- cDOWN- dOUTPUT_ eSYMBOL cUP- dOUTPUT_ eSYMBOL aPASSPORT_ bCONTROL aPAU_",
    "bCIN_ cHAU_ dGLOTTAL_ eSTOP eSTOP_ fFINAL fVARIANT dLETTER_ eA eBA eCA eCHA eDA eE eFA",
    "eFINAL_ fK fL fM fN fNG fP fT fW fY eGA eHA eI eIA eKA eKHA eLA eMA eNA eNGA eO ePA ePHA",
    "eRA eSA eTA eTHA eU eUA eVA eZA dLOW- eFALLING_ fTONE fTONE_ gFINAL gLONG gLONG_ hFINAL",
    "dMID- eLEVEL_ fTONE fTONE_ gFINAL gLONG_ hFINAL dRISING_ eTONE eTONE_ fFINAL fLONG fLONG_",
    "gFINAL dSANDHI_ eGLOTTAL_ fSTOP fSTOP_ gFINAL eTONE eTONE_ fFINAL fLONG fLONG_ gFINAL aPAW_",
    "bPRINTS aPDF aPDI aPEACE_ bSYMBOL aPEACH aPEACOCK aPEANUTS aPEAR aPEDESTRIAN aPENCIL",
    "aPENGUIN aPENSIVE_ bFACE aPENTAGRAM aPEN_ bOVER_ cSTAMPED_ dENVELOPE aPEOPLE_ bHUGGING",
    "aPERCENT_ bSIGN aPERFORMING_ bARTS aPERMANENT_ bPAPER_ cSIGN aPERPENDICULAR aPERPENDICULAR_",
    "bWITH_ cS aPERSEVERING_ bFACE aPERSONAL_ bCOMPUTER aPERSON_ bBOWING_ cDEEPLY bCLIMBING",
    "bDOING_ cCARTWHEEL bFROWNING bIN_ cLOTUS_ dPOSITION cSTEAMY_ dROOM bRAISING_ cBOTH_ dHANDS_",
    "eIN_ fCELEBRATION bWITH_ cBALL cBLOND_ dHAIR cCROWN cFOLDED_ dHANDS cHEADSCARF cPOUTING_",
    "dFACE aPERSPECTIVE aPER_ bMILLE_ cSIGN bSIGN bTEN_ cTHOUSAND_ dSIGN aPESETA_ bSIGN aPESO_",
    "bSIGN aPETRI_ bDISH aPHAGS- bPA_ cDOUBLE_ dHEAD_ eMARK cLETTER_ dA dALTERNATE_ eYA",
    "dASPIRATED_ eFA dBA dCA dCANDRABINDU dCHA dDA dDDA dDZA dE dEE dFA dGA dGGA dHA dI dJA dKA",
    "dKHA dLA dMA dNA dNGA dNNA dNYA dO dPA dPHA dQA dRA dSA dSHA dSMALL_ eA dTA dTHA dTSA dTSHA",
    "dTTA dTTHA dU dVOICED_ eHA dVOICELESS_ eSHA dWA dXA dYA dZA dZHA cMARK_ dDOUBLE_ eSHAD",
    "dSHAD cSINGLE_ dHEAD_ eMARK cSUBJOINED_ dLETTER_ eRA eWA eYA cSUPERFIXED_ dLETTER_ eRA",
    "aPHAISTOS_ bDISC_ cSIGN_ dARROW dBEE dBEEHIVE dBOOMERANG dBOW dBULLS_ eLEG dCAPTIVE",
    "dCARPENTRY_ ePLANE dCAT dCHILD dCLUB dCOLUMN dCOMB dCOMBINING_ eOBLIQUE_ fSTROKE dDOLIUM",
    "dDOVE dEAGLE dFLUTE dGAUNTLET dGRATER dHELMET dHIDE dHORN dLID dLILY dMANACLES dMATTOCK",
    "dOX_ eBACK dPAPYRUS dPEDESTRIAN dPLANE_ eTREE dPLUMED_ eHEAD dRAM dROSETTE dSAW dSHIELD",
    "dSHIP dSLING dSMALL_ eAXE dSTRAINER dTATTOOED_ eHEAD dTIARA dTUNNY dVINE dWAVY_ eBAND",
    "dWOMAN aPHILIPPINE_ bDOUBLE_ cPUNCTUATION bSINGLE_ cPUNCTUATION aPHOENICIAN_ bLETTER_ cAIN",
    "cALF cBET cDELT cGAML cHE cHET cKAF cLAMD cMEM cNUN cPE cQOF cROSH cSADE cSEMK cSHIN cTAU",
    "cTET cWAU cYOD cZAI bNUMBER_ cONE cONE_ dHUNDRED cTEN cTHREE cTWENTY cTWO bWORD_ cSEPARATOR",
    "aPHOLUS aPICK aPICKUP_ bTRUCK aPIE aPIG aPIG_ bFACE bNOSE aPILCROW_ bSIGN aPILE_ bOF_ cPOO",
    "aPILL aPINATA aPINCHED_ bFINGERS aPINCHING_ bHAND aPINEAPPLE aPINE_ bDECORATION aPINWHEEL_",
    "bSTAR aPISCES aPISTOL aPITCHFORK aPITCHFORK_ bWITH_ cTEE_ dTOP aPLACARD aPLACE_ bOF_",
    "cINTEREST_ dSIGN cWORSHIP aPLANCK_ bCONSTANT bCONSTANT_ cOVER_ dTWO_ ePI aPLAYGROUND_",
    "bSLIDE aPLAYING_ bCARD_ cACE_ dOF_ eCLUBS eDIAMONDS eHEARTS eSPADES cBACK cBLACK_ dJOKER",
    "cEIGHT_ dOF_ eCLUBS eDIAMONDS eHEARTS eSPADES cFIVE_ dOF_ eCLUBS eDIAMONDS eHEARTS eSPADES",
    "cFOOL cFOUR_ dOF_ eCLUBS eDIAMONDS eHEARTS eSPADES cJACK_ dOF_ eCLUBS eDIAMONDS eHEARTS",
    "eSPADES cKING_ dOF_ eCLUBS eDIAMONDS eHEARTS eSPADES cKNIGHT_ dOF_ eCLUBS eDIAMONDS eHEARTS",
    "eSPADES cNINE_ dOF_ eCLUBS eDIAMONDS eHEARTS eSPADES cQUEEN_ dOF_ eCLUBS eDIAMONDS eHEARTS",
    "eSPADES cRED_ dJOKER cSEVEN_ dOF_ eCLUBS eDIAMONDS eHEARTS eSPADES cSIX_ dOF_ eCLUBS",
    "eDIAMONDS eHEARTS eSPADES cTEN_ dOF_ eCLUBS eDIAMONDS eHEARTS eSPADES cTHREE_ dOF_ eCLUBS",
    "eDIAMONDS eHEARTS eSPADES cTRUMP- d1 d10 d11 d12 d13 d14 d15 d16 d17 d18 d19 d2 d20 d21 d3",
    "d4 d5 d6 d7 d8 d9 cTWO_ dOF_ eCLUBS eDIAMONDS eHEARTS eSPADES cWHITE_ dJOKER aPLD aPLU",
    "aPLUNGER aPLUS- bMINUS_ cSIGN aPLUS_ bSIGN bSIGN_ cABOVE_ dEQUALS_ eSIGN cIN_ dLEFT_ eHALF_",
    "fCIRCLE dRIGHT_ eHALF_ fCIRCLE dTRIANGLE cWITH_ dBLACK_ eTRIANGLE dCIRCUMFLEX_ eACCENT_",
    "fABOVE dDOT_ eBELOW dSMALL_ eCIRCLE_ fABOVE dSUBSCRIPT_ eTWO dTILDE_ eABOVE eBELOW aPLUTO",
    "aPLUTO_ bFORM_ cFIVE cFOUR cTHREE cTWO aPM aPOCKET_ bCALCULATOR aPOLICE_ bCAR bCARS_",
    "cREVOLVING_ dLIGHT bOFFICER aPOODLE aPOPCORN aPOP_ bDIRECTIONAL_ cFORMATTING cISOLATE",
    "aPORTABLE_ bSTEREO aPOSEIDON aPOSITION_ bINDICATOR aPOSTAL_ bHORN bMARK bMARK_ cFACE",
    "aPOSTBOX aPOTABLE_ bWATER_ cSYMBOL aPOTATO aPOTTED_ bPLANT aPOT_ bOF_ cFOOD aPOUCH",
    "aPOULTRY_ bLEG aPOUND_ bSIGN aPOURING_ bLIQUID aPOUTING_ bCAT_ cFACE bFACE aPOWER_ bON-",
    "cOFF_ dSYMBOL bON_ cSYMBOL bSLEEP_ cSYMBOL bSYMBOL aPRAYER_ bBEADS aPRECEDES aPRECEDES_",
    "bABOVE_ cALMOST_ dEQUAL_ eTO cEQUALS_ dSIGN cNOT_ dALMOST_ eEQUAL_ fTO dEQUAL_ eTO cSINGLE-",
    "dLINE_ eEQUALS_ fSIGN eNOT_ fEQUAL_ gTO bBUT_ cNOT_ dEQUIVALENT_ eTO bOR_ cEQUAL_ dTO",
    "cEQUIVALENT_ dTO bUNDER_ cRELATION aPREGNANT_ bMAN bPERSON bWOMAN aPRESCRIPTION_ bTAKE",
    "aPRESENTATION_ bFORM_ cFOR_ dVERTICAL_ eCOLON eCOMMA eEM_ fDASH eEN_ fDASH eEXCLAMATION_",
    "fMARK eHORIZONTAL_ fELLIPSIS eIDEOGRAPHIC_ fCOMMA fFULL_ gSTOP eLEFT_ fANGLE_ gBRACKET",
    "fBLACK_ gLENTICULAR_ hBRACKET fCORNER_ gBRACKET fCURLY_ gBRACKET fDOUBLE_ gANGLE_ hBRACKET",
    "fPARENTHESIS fSQUARE_ gBRACKET fTORTOISE_ gSHELL_ hBRACKET fWHITE_ gCORNER_ hBRACKET",
    "gLENTICULAR_ hBRACKET eLOW_ fLINE eQUESTION_ fMARK eRIGHT_ fANGLE_ gBRACKET fBLACK_",
    "gLENTICULAR_ hBRACKET fCORNER_ gBRACKET fCURLY_ gBRACKET fDOUBLE_ gANGLE_ hBRACKET",
    "fPARENTHESIS fSQUARE_ gBRACKET fTORTOISE_ gSHELL_ hBRACKET fWHITE_ gCORNER_ hBRACKET",
    "gLENTICULAR_ hBRACKET hBRAKCET eSEMICOLON eTWO_ fDOT_ gLEADER eWAVY_ fLOW_ gLINE aPRETZEL",
    "aPREVIOUS_ bPAGE aPRIME aPRINCE aPRINCESS aPRINTER aPRINTER_ bICON aPRINT_ bSCREEN_ cSYMBOL",
    "aPRIVACY_ bMESSAGE aPRIVATE_ bUSE- c1 c2 bUSE_ cONE cTWO aPROBING_ bCANE aPROHIBITED_ bSIGN",
    "aPROJECTIVE aPROPERTY_ bLINE aPROPORTION aPROPORTIONAL_ bTO aPROSERPINA aPSALTER_ bPAHLAVI_",
    "cFOUR_ dDOTS_ eWITH_ fCROSS fDOT cLETTER_ dALEPH dBETH dDALETH dGIMEL dHE dHETH dKAPH",
    "dLAMEDH dMEM- eQOPH dNUN dPE dSADHE dSAMEKH dSHIN dTAW dWAW- eAYIN- fRESH dYODH dZAYIN",
    "cNUMBER_ dFOUR dONE dONE_ eHUNDRED dTEN dTHREE dTWENTY dTWO cSECTION_ dMARK cTURNED_",
    "dSECTION_ eMARK aPU1 aPU2 aPUBLIC_ bADDRESS_ cLOUDSPEAKER aPUNCTUATION_ bSPACE aPUNCTUS_",
    "bELEVATUS_ cMARK aPURPLE_ bHEART aPURSE aPUSHPIN aPUT_ bLITTER_ cIN_ dITS_ ePLACE_ fSYMBOL",
    "aQUADRANT_ bLOWER_ cLEFT cRIGHT bUPPER_ cLEFT cLEFT_ dAND_ eLOWER_ fLEFT_ gAND_ hLOWER_",
    "iRIGHT fRIGHT eUPPER_ fRIGHT_ gAND_ hLOWER_ iLEFT iRIGHT cRIGHT cRIGHT_ dAND_ eLOWER_ fLEFT",
    "fLEFT_ gAND_ hLOWER_ iRIGHT aQUADRUPLE_ bINTEGRAL_ cOPERATOR bPRIME aQUARTER_ bNOTE",
    "aQUATERNION_ bINTEGRAL_ cOPERATOR aQUESTIONED_ bEQUAL_ cTO aQUESTION_ bEXCLAMATION_ cMARK",
    "bMARK aQUINCUNX aQUOTATION_ bMARK aRABBIT aRABBIT_ bFACE aRACCOON aRACING_ bCAR bMOTORCYCLE",
    "aRADICAL_ bSYMBOL_ cBOTTOM aRADIO aRADIOACTIVE_ bSIGN aRADIO_ bBUTTON aRAILWAY_ bCAR bTRACK",
    "aRAIN aRAINBOW aRAISED_ bBACK_ cOF_ dHAND bCOMMA bDOT bDOTTED_ cINTERPOLATION_ dMARKER",
    "bFIST bHAND bHAND_ cWITH_ dFINGERS_ eSPLAYED dPART_ eBETWEEN_ fMIDDLE_ gAND_ hRING_",
    "iFINGERS bINTERPOLATION_ cMARKER bMC_ cSIGN bMD_ cSIGN bMR_ cSIGN bSQUARE aRAM aRAT aRATIO",
    "aRAZOR aRECEIPT aRECORD_ bSEPARATOR aRECREATIONAL_ bVEHICLE aRECYCLED_ bPAPER_ cSYMBOL",
    "aRECYCLING_ bSYMBOL_ cFOR_ dGENERIC_ eMATERIALS dTYPE- e1_ fPLASTICS e2_ fPLASTICS e3_",
    "fPLASTICS e4_ fPLASTICS e5_ fPLASTICS e6_ fPLASTICS e7_ fPLASTICS aRED_ bAPPLE bGIFT_",
    "cENVELOPE aREFERENCE_ bMARK aREGIONAL_ bINDICATOR_ cSYMBOL_ dLETTER_ eA eB eC eD eE eF eG",
    "eH eI eJ eK eL eM eN eO eP eQ eR eS eT eU eV eW eX eY eZ aREGISTERED_ bSIGN aREJANG_",
    "bCONSONANT_ cSIGN_ dH dN dNG dR bLETTER_ cA cBA cCA cDA cGA cHA cJA cKA cLA cMA cMBA cNA",
    "cNDA cNGA cNGGA cNYA cNYJA cPA cRA cSA cTA cWA cYA bSECTION_ cMARK bVIRAMA bVOWEL_ cSIGN_",
    "dAI dAU dE dEA dEU dI dO dU aRELIEVED_ bFACE aREMINDER_ bRIBBON aREPLACEMENT_ bCHARACTER",
    "aRESPONSE aRESTRICTED_ bLEFT_ cENTRY- d1 d2 aRESTROOM aRETURN_ bLEFT bRIGHT bSYMBOL",
    "aREVERSED_ bANGLE bANGLE_ cWITH_ dUNDERBAR bCOMMA bDOUBLE_ cPRIME cPRIME_ dQUOTATION_ eMARK",
    "cSTROKE_ dNOT_ eSIGN bEMPTY_ cSET bFORKED_ cPARAGRAPHOS bHAND_ cWITH_ dMIDDLE_ eFINGER_",
    "fEXTENDED bNOT_ cSIGN bPILCROW_ cSIGN bPRIME bQUESTION_ cMARK bRAISED_ cHAND_ dWITH_",
    "eFINGERS_ fSPLAYED bRIGHT_ cANGLE bROTATED_ cFLORAL_ dHEART_ eBULLET bSANS- cSERIF_",
    "dCAPITAL_ eL bSEMICOLON bTHUMBS_ cDOWN_ dSIGN cUP_ dSIGN bTILDE bTILDE_ cEQUALS bTRIPLE_",
    "cPRIME bVICTORY_ cHAND aREVERSE_ bCHECKER_ cBOARD bINDEX bLIGHT_ cFOUR_ dPOINTED_",
    "ePINWHEEL_ fSTAR bLINE_ cFEED bSOLIDUS bSOLIDUS_ cOPERATOR cPRECEDING_ dSUBSET cWITH_",
    "dHORIZONTAL_ eSTROKE bTILDE_ cOPERATOR_ dABOVE_ eLEFTWARDS_ fARROW eRIGHTWARDS_ fARROW",
    "aREVOLVING_ bHEARTS aRHINOCEROS aRI aRIAL_ bSIGN aRIBBON aRIBBON_ bARROW_ cDOWN_ dLEFT",
    "dRIGHT cLEFT_ dDOWN dUP cRIGHT_ dDOWN dUP cUP_ dLEFT dRIGHT aRICE_ bBALL bCRACKER aRIFLE",
    "aRIGHT- bFACING_ cARMENIAN_ dETERNITY_ eSIGN cFIST cSVASTI_ dSIGN dSIGN_ eWITH_ fDOTS",
    "bHANDED_ cINTERLACED_ dPENTAGRAM bPOINTING_ cANGLE_ dBRACKET cCURVED_ dANGLE_ eBRACKET",
    "cDOUBLE_ dANGLE_ eQUOTATION_ fMARK cMAGNIFYING_ dGLASS bSHADED_ cWHITE_ dRIGHTWARDS_ eARROW",
    "bSIDE_ cARC_ dCLOCKWISE_ eARROW bTO- cLEFT_ dEMBEDDING dISOLATE dMARK dOVERRIDE aRIGHTHAND_",
    "bINTERIOR_ cPRODUCT aRIGHTWARDS_ bARROW bARROW- cTAIL bARROW_ cABOVE_ dALMOST_ eEQUAL_ fTO",
    "dREVERSE_ eALMOST_ fEQUAL_ gTO eTILDE_ fOPERATOR dSHORT_ eLEFTWARDS_ fARROW dTILDE_",
    "eOPERATOR cAND_ dUPPER_ eAND_ fLOWER_ gONE_ hEIGHTH_ iBLOCK cFROM_ dBAR dBAR_ eTO_ fBLACK_",
    "gDIAMOND cOVER_ dLEFTWARDS_ eARROW cTHROUGH_ dGREATER- eTHAN dSUPERSET dX cTO_ dBAR dBLACK_",
    "eDIAMOND cWITH_ dCORNER_ eDOWNWARDS dDOTTED_ eSTEM dDOUBLE_ eVERTICAL_ fSTROKE",
    "dEQUILATERAL_ eARROWHEAD dHOOK dLARGE_ eTRIANGLE_ fARROWHEAD dLOOP dMEDIUM_ eTRIANGLE_",
    "fARROWHEAD dNOTCHED_ eTAIL dPLUS_ eBELOW dSMALL_ eEQUILATERAL_ fARROWHEAD eTRIANGLE_",
    "fARROWHEAD dSTROKE dTAIL dTAIL_ eWITH_ fDOUBLE_ gVERTICAL_ hSTROKE fVERTICAL_ gSTROKE dTIP_",
    "eDOWNWARDS eUPWARDS dVERTICAL_ eSTROKE bBACK- cTILTED_ dSHADOWED_ eWHITE_ fARROW bBLACK_",
    "cARROW cCIRCLED_ dWHITE_ eARROW bBOTTOM_ cSHADED_ dWHITE_ eARROW bCOMPRESSED_ cARROW",
    "bDASHED_ cARROW bDOUBLE_ cARROW cARROW- dTAIL cARROW_ dFROM_ eBAR dWITH_ eSTROKE eVERTICAL_",
    "fSTROKE cDASH_ dARROW bFINGER- cPOST_ dARROW bFRONT- cTILTED_ dSHADOWED_ eWHITE_ fARROW",
    "bHAND bHARPOON_ cOVER_ dLEFTWARDS_ eHARPOON cWITH_ dBARB_ eDOWNWARDS eDOWN_ fABOVE_",
    "gLEFTWARDS_ hHARPOON_ iWITH_ jBARB_ kDOWN fBELOW_ gLONG_ hDASH fFROM_ gBAR fTO_ gBAR",
    "eUPWARDS eUP_ fABOVE_ gLEFTWARDS_ hHARPOON_ iWITH_ jBARB_ kUP gLONG_ hDASH gRIGHTWARDS_",
    "hHARPOON_ iWITH_ jBARB_ kDOWN fFROM_ gBAR fTO_ gBAR bHEAVY_ cARROW cCOMPRESSED_ dARROW",
    "bLEFT- cSHADED_ dWHITE_ eARROW bOPEN- cHEADED_ dARROW bPAIRED_ cARROWS bQUADRUPLE_ cARROW",
    "bRIGHT- cSHADED_ dWHITE_ eARROW bROCKET bSANS- cSERIF_ dARROW bSQUARED_ cARROW bSQUIGGLE_",
    "cARROW bTOP_ cSHADED_ dWHITE_ eARROW bTRIANGLE- cHEADED_ dARROW dARROW_ eOVER_ fLEFTWARDS_",
    "gTRIANGLE- hHEADED_ iARROW eTO_ fBAR eWITH_ fBOLD_ gSHAFT fDOUBLE_ gHORIZONTAL_ hSTROKE",
    "gVERTICAL_ hSTROKE fHEAVY_ gSHAFT fLONG_ gTIP_ hDOWNWARDS hUPWARDS fMEDIUM_ gSHAFT fNARROW_",
    "gSHAFT fVERY_ gHEAVY_ hSHAFT dDASHED_ eARROW dPAIRED_ eARROWS bTRIANGLE_ cARROWHEAD",
    "bTRIPLE_ cARROW cDASH_ dARROW bTWO- cHEADED_ dARROW_ eFROM_ fBAR eWITH_ fDOUBLE_ gVERTICAL_",
    "hSTROKE fTAIL fTAIL_ gWITH_ hDOUBLE_ iVERTICAL_ jSTROKE hVERTICAL_ iSTROKE fTRIANGLE_",
    "gARROWHEADS fVERTICAL_ gSTROKE dTRIPLE_ eDASH_ fARROW bTWO_ cHEADED_ dARROW bWAVE_ cARROW",
    "bWHITE_ cARROW cARROW_ dFROM_ eWALL dWITHIN_ eTRIANGLE_ fARROWHEAD aRIGHT_ bAND_ cLOWER_",
    "dONE_ eEIGHTH_ fBLOCK cUPPER_ dONE_ eEIGHTH_ fBLOCK bANGER_ cBUBBLE bANGLE bANGLE_ cBRACKET",
    "cBRACKET_ dWITH_ eDOT cDOTTED_ dSUBSTITUTION_ eMARKER cSUBSTITUTION_ dMARKER cVARIANT_",
    "dWITH_ eSQUARE cWITH_ dARC dDOWNWARDS_ eZIGZAG_ fARROW bARC_ cGREATER- dTHAN_ eBRACKET",
    "bARROW_ cWITH_ dCIRCLED_ ePLUS dSMALL_ eCIRCLE bBLACK_ cLENTICULAR_ dBRACKET cTORTOISE_",
    "dSHELL_ eBRACKET bCEILING bCORNER_ cBRACKET bCURLY_ cBRACKET cBRACKET_ dLOWER_ eHOOK",
    "dMIDDLE_ ePIECE dUPPER_ eHOOK bDOTTED_ cSUBSTITUTION_ dBRACKET bDOUBLE_ cANGLE_ dBRACKET",
    "cARROW_ dWITH_ eROUNDED_ fHEAD cPARENTHESIS cQUOTATION_ dMARK cWIGGLY_ dFENCE bFISH_ cTAIL",
    "bFIVE_ cEIGHTHS_ dBLOCK bFLOOR bHALF_ cBLACK_ dCIRCLE dSTAR cBLOCK cFOLDER cMEDIUM_ dSHADE",
    "cRUNNING_ dMAN bHAND_ cTELEPHONE_ dRECEIVER bLOW_ cPARAPHRASE_ dBRACKET bNORMAL_ cFACTOR_",
    "dSEMIDIRECT_ ePRODUCT bONE_ cEIGHTH_ dBLOCK cQUARTER_ dBLOCK bOPEN_ cSQUARED_ dDOT bOUTER_",
    "cJOIN bPARENTHESIS bPARENTHESIS_ cEXTENSION cLOWER_ dHOOK cUPPER_ dHOOK bRAISED_ cOMISSION_",
    "dBRACKET bS- cSHAPED_ dBAG_ eDELIMITER bSEMIDIRECT_ cPRODUCT bSEVEN_ cEIGHTHS_ dBLOCK",
    "bSIDEWAYS_ cU_ dBRACKET bSINGLE_ cQUOTATION_ dMARK bSPEAKER bSPEAKER_ cWITH_ dONE_ eSOUND_",
    "fWAVE dTHREE_ eSOUND_ fWAVES bSPEECH_ cBUBBLE bSQUARE_ cBRACKET cBRACKET_ dEXTENSION",
    "dLOWER_ eCORNER dUPPER_ eCORNER dWITH_ eDOUBLE_ fSTROKE eQUILL eSTROKE eTICK_ fIN_ gBOTTOM_",
    "hCORNER gTOP_ hCORNER eUNDERBAR bSUBSTITUTION_ cBRACKET bTACK bTHIRD_ cWHITE_ dRIGHT_",
    "ePOINTING_ fINDEX bTHOUGHT_ cBUBBLE bTHREE_ cEIGHTHS_ dBLOCK cQUARTERS_ dBLOCK bTORTOISE_",
    "cSHELL_ dBRACKET bTRANSPOSITION_ cBRACKET bTRIANGLE bTRIANGLE_ cABOVE_ dLEFT_ eTRIANGLE",
    "bTRIANGULAR_ cONE_ dQUARTER_ eBLOCK bVERTICAL_ cBAR_ dWITH_ eQUILL cBOX_ dLINE bWHITE_",
    "cCORNER_ dBRACKET cCURLY_ dBRACKET cLENTICULAR_ dBRACKET cPARENTHESIS cSQUARE_ dBRACKET",
    "cTORTOISE_ dSHELL_ eBRACKET bWIGGLY_ cFENCE aRING aRINGED_ bPLANET aRINGING_ bBELL aRING_",
    "bABOVE bBUOY bEQUAL_ cTO bIN_ cEQUAL_ dTO bOPERATOR bPOINT aRISING_ bDIAGONAL_ cCROSSING_",
    "dFALLING_ eDIAGONAL dSOUTH_ eEAST_ fARROW aRLE aRLI aRLM aRLO aROASTED_ bSWEET_ cPOTATO",
    "aROBOT_ bFACE aROCK aROCKET aROLLED- bUP_ cNEWSPAPER aROLLER_ bCOASTER bSKATE aROLLING_",
    "bON_ cTHE_ dFLOOR_ eLAUGHING aROLL_ bOF_ cPAPER aROMAN_ bAS_ cSIGN bCENTURIAL_ cSIGN",
    "bDENARIUS_ cSIGN bDIMIDIA_ cSEXTULA_ dSIGN bDUPONDIUS_ cSIGN bNUMERAL_ cEIGHT cELEVEN",
    "cFIFTY cFIFTY_ dEARLY_ eFORM dTHOUSAND cFIVE cFIVE_ dHUNDRED dTHOUSAND cFOUR cNINE cONE",
    "cONE_ dHUNDRED dHUNDRED_ eTHOUSAND dTHOUSAND dTHOUSAND_ eC_ fD cREVERSED_ dONE_ eHUNDRED",
    "cSEVEN cSIX cSIX_ dLATE_ eFORM cTEN cTEN_ dTHOUSAND cTHREE cTWELVE cTWO bQUINARIUS_ cSIGN",
    "bSEMUNCIA_ cSIGN bSESTERTIUS_ cSIGN bSEXTANS_ cSIGN bSEXTULA_ cSIGN bSILIQUA_ cSIGN bUNCIA_",
    "cSIGN aROOSTER aROSE aROSETTE aROTATED_ bCAPITAL_ cQ bFLORAL_ cHEART_ dBULLET bHEAVY_",
    "cBLACK_ dHEART_ eBULLET bLIGHT_ cFOUR_ dPOINTED_ eBLACK_ fCUSP bWHITE_ cFOUR_ dPOINTED_",
    "eCUSP aROUNDED_ bSYMBOL_ cFOR_ dCAI dFU dLU dSHOU dSHUANGXI dXI aROUND_ bPUSHPIN bTARGET",
    "aROWBOAT aRS aRUBLE_ bSIGN aRUGBY_ bFOOTBALL aRULE- bDELAYED aRUMI_ bDIGIT_ cEIGHT cFIVE",
    "cFOUR cNINE cONE cSEVEN cSIX cTHREE cTWO bFRACTION_ cONE_ dHALF dQUARTER dTHIRD cTWO_",
    "dTHIRDS bNUMBER_ cEIGHTY cEIGHT_ dHUNDRED cFIFTY cFIVE_ dHUNDRED cFORTY cFOUR_ dHUNDRED",
    "cNINETY cNINE_ dHUNDRED cONE_ dHUNDRED cSEVENTY cSEVEN_ dHUNDRED cSIXTY cSIX_ dHUNDRED cTEN",
    "cTHIRTY cTHREE_ dHUNDRED cTWENTY cTWO_ dHUNDRED aRUNIC_ bARLAUG_ cSYMBOL bBELGTHOR_ cSYMBOL",
    "bCROSS_ cPUNCTUATION bLETTER_ cAC_ dA cAESC cALGIZ_ dEOLHX cANSUZ_ dA cBERKANAN_ dBEORC_",
    "eBJARKAN_ fB cC cCALC cCEALC cCEN cCWEORTH cD cDAGAZ_ dDAEG_ eD cDOTTED- dL dN dP cE cEAR",
    "cEHWAZ_ dEH_ eE cENG cETH cFEHU_ dFEOH_ eFE_ fF cFRANKS_ dCASKET_ eAC eAESC eEH eIS eOS cG",
    "cGAR cGEBO_ dGYFU_ eG cGER cHAEGL_ dH cHAGLAZ_ dH cICELANDIC- dYR cING cINGWAZ cIOR cISAZ_",
    "dIS_ eISS_ fI cIWAZ_ dEOH cJERAN_ dJ cK cKAUNA cKAUN_ dK cLAUKAZ_ dLAGU_ eLOGR_ fL cLONG-",
    "dBRANCH- eAR_ fAE eHAGALL_ fH eMADR_ fM eOSS_ fO eYR cMANNAZ_ dMAN_ eM cNAUDIZ_ dNYD_",
    "eNAUD_ fN cO cOE cON cOO cOPEN- dP cOS_ dO cOTHALAN_ dETHEL_ eO cPERTHO_ dPEORTH_ eP cQ",
    "cRAIDO_ dRAD_ eREID_ fR cSH cSHORT- dTWIG- eAR_ fA eBJARKAN_ fB eHAGALL_ fH eMADR_ fM",
    "eNAUD_ fN eOSS_ fO eSOL_ fS eTYR_ fT eYR cSIGEL_ dLONG- eBRANCH- fSOL_ gS cSOWILO_ dS cSTAN",
    "cTHURISAZ_ dTHURS_ eTHORN cTIWAZ_ dTIR_ eTYR_ fT cURUZ_ dUR_ eU cV cW cWUNJO_ dWYNN_ eW cX",
    "cY cYR cZ bMULTIPLE_ cPUNCTUATION bSINGLE_ cPUNCTUATION bTVIMADUR_ cSYMBOL aRUNNER",
    "aRUNNING_ bSHIRT_ cWITH_ dSASH aRUPEE_ bSIGN aRUSSIAN_ bASTROLOGICAL_ cSYMBOL_ dBINOVILE",
    "dNOVILE dQUINTILE dSENTAGON dTREDECILE dVIGINTILE"]

end GoMetrics.Text.CharName
