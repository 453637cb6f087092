/-!
Names of characters that begin with the letters M to N, as a tree of their words (Unicode 14).
-/

namespace GoMetrics.Text.CharName

def namesMToN : List String :=
  ["aMACRON aMAGE aMAGIC_ bWAND aMAGNET aMAHAJANI_ bABBREVIATION_ cSIGN bLETTER_ cA cBA cBHA",
    "cCA cCHA cDA cDDA cDDHA cDHA cE cGA cGHA cHA cI cJA cJHA cKA cKHA cLA cMA cNA cNNA cNYA cO",
    "cPA cPHA cRA cRRA cSA cTA cTHA cTTA cTTHA cU cVA bLIGATURE_ cSHRI bSECTION_ cMARK bSIGN_",
    "cNUKTA aMAHJONG_ bTILE_ cAUTUMN cBACK cBAMBOO cCHRYSANTHEMUM cEAST_ dWIND cEIGHT_ dOF_",
    "eBAMBOOS eCHARACTERS eCIRCLES cFIVE_ dOF_ eBAMBOOS eCHARACTERS eCIRCLES cFOUR_ dOF_",
    "eBAMBOOS eCHARACTERS eCIRCLES cGREEN_ dDRAGON cJOKER cNINE_ dOF_ eBAMBOOS eCHARACTERS",
    "eCIRCLES cNORTH_ dWIND cONE_ dOF_ eBAMBOOS eCHARACTERS eCIRCLES cORCHID cPLUM cRED_ dDRAGON",
    "cSEVEN_ dOF_ eBAMBOOS eCHARACTERS eCIRCLES cSIX_ dOF_ eBAMBOOS eCHARACTERS eCIRCLES cSOUTH_",
    "dWIND cSPRING cSUMMER cTHREE_ dOF_ eBAMBOOS eCHARACTERS eCIRCLES cTWO_ dOF_ eBAMBOOS",
    "eCHARACTERS eCIRCLES cWEST_ dWIND cWHITE_ dDRAGON cWINTER aMAKASAR_ bANGKA bEND_ cOF_",
    "dSECTION bLETTER_ cA cBA cCA cDA cGA cJA cKA cLA cMA cNA cNGA cNYA cPA cRA cSA cTA cVA cYA",
    "bPASSIMBANG bVOWEL_ cSIGN_ dE dI dO dU aMALAYALAM_ bAU_ cLENGTH_ dMARK bDATE_ cMARK bDIGIT_",
    "cEIGHT cFIVE cFOUR cNINE cONE cSEVEN cSIX cTHREE cTWO cZERO bFRACTION_ cONE_ dEIGHTH dFIFTH",
    "dFORTIETH dHALF dONE- eHUNDRED- fAND- gSIXTIETH dQUARTER dSIXTEENTH dTENTH dTWENTIETH",
    "cTHREE_ dEIGHTIETHS dQUARTERS dSIXTEENTHS dTWENTIETHS bLETTER_ cA cAA cAI cARCHAIC_ dII cAU",
    "cBA cBHA cCA cCHA cCHILLU_ dK dL dLL dLLL dM dN dNN dRR dY cDA cDDA cDDHA cDHA cDOT_ dREPH",
    "cE cEE cGA cGHA cHA cI cII cJA cJHA cKA cKHA cLA cLLA cLLLA cMA cNA cNGA cNNA cNNNA cNYA cO",
    "cOO cPA cPHA cRA cRRA cSA cSHA cSSA cTA cTHA cTTA cTTHA cTTTA cU cUU cVA cVEDIC_ dANUSVARA",
    "cVOCALIC_ dL dLL dR dRR cYA bNUMBER_ cONE_ dHUNDRED dTHOUSAND cTEN bSIGN_ cANUSVARA",
    "cAVAGRAHA cCANDRABINDU cCIRCULAR_ dVIRAMA cCOMBINING_ dANUSVARA_ eABOVE cPARA cVERTICAL_",
    "dBAR_ eVIRAMA cVIRAMA cVISARGA bVOWEL_ cSIGN_ dAA dAI dAU dE dEE dI dII dO dOO dU dUU",
    "dVOCALIC_ eL eLL eR eRR aMALE_ bAND_ cFEMALE_ dSIGN bSIGN bWITH_ cSTROKE_ dAND_ eMALE_",
    "fAND_ gFEMALE_ hSIGN dSIGN aMALTESE_ bCROSS aMAMMOTH aMAN aMANAT_ bSIGN aMANDAIC_",
    "bAFFRICATION_ cMARK bGEMINATION_ cMARK bLETTER_ cAB cAD cAG cAH cAIN cAK cAKSA cAL cAM cAN",
    "cAP cAQ cAR cAS cASH cASZ cAT cATT cAZ cDUSHENNA cHALQA cIN cIT cKAD cUSHENNA bPUNCTUATION",
    "bVOCALIZATION_ cMARK aMANGO aMANICHAEAN_ bABBREVIATION_ cMARK_ dABOVE dBELOW bLETTER_",
    "cAAYIN cALEPH cAYIN cBETH cBHETH cDALETH cDHAMEDH cFE cGHIMEL cGIMEL cHE cHETH cJAYIN",
    "cJHAYIN cKAPH cKHAPH cLAMEDH cMEM cNUN cPE cQHOPH cQOPH cRESH cSADHE cSAMEKH cSHIN cSSHIN",
    "cTAW cTETH cTHAMEDH cWAW cXAPH cXOPH cYODH cZAYIN cZHAYIN bNUMBER_ cFIVE cONE cONE_",
    "dHUNDRED cTEN cTWENTY bPUNCTUATION_ cDOT cDOT_ dWITHIN_ eDOT cDOUBLE_ dDOT_ eWITHIN_ fDOT",
    "cFLEURON cLINE_ dFILLER cSTAR cTWO_ dDOTS bSIGN_ cUD aMANS_ bSHOE aMANTELPIECE_ bCLOCK",
    "aMANUAL_ bWHEELCHAIR aMAN_ bAND_ cWOMAN_ dHOLDING_ eHANDS bDANCING bIN_ cBUSINESS_ dSUIT_",
    "eLEVITATING cTUXEDO bWITH_ cGUA_ dPI_ eMAO cTURBAN aMAPLE_ bLEAF aMAP_ bSYMBOL_ cFOR_",
    "dLIGHTHOUSE aMARCHEN_ bHEAD_ cMARK bLETTER_ c- dA cA cBA cCA cCHA cDA cDZA cGA cHA cJA cKA",
    "cKHA cLA cMA cNA cNGA cNYA cPA cPHA cRA cSA cSHA cTA cTHA cTSA cTSHA cWA cYA cZA cZHA",
    "bMARK_ cSHAD bSIGN_ cANUSVARA cCANDRABINDU bSUBJOINED_ cLETTER_ dA dBA dCA dCHA dDA dDZA",
    "dGA dHA dJA dKA dKHA dLA dMA dNA dNGA dNYA dPA dPHA dRA dSA dSHA dTA dTHA dTSA dTSHA dWA",
    "dYA dZA dZHA bVOWEL_ cSIGN_ dAA dE dI dO dU aMARRIAGE_ bSYMBOL aMARTIAL_ bARTS_ cUNIFORM",
    "aMASARAM_ bGONDI_ cDIGIT_ dEIGHT dFIVE dFOUR dNINE dONE dSEVEN dSIX dTHREE dTWO dZERO",
    "cLETTER_ dA dAA dAI dAU dBA dBHA dCA dCHA dDA dDDA dDDHA dDHA dE dGA dGHA dHA dI dII dJA",
    "dJHA dJNYA dKA dKHA dKSSA dLA dLLA dMA dNA dNGA dNNA dNYA dO dPA dPHA dRA dSA dSHA dSSA dTA",
    "dTHA dTRA dTTA dTTHA dU dUU dVA dYA cRA- dKARA cREPHA cSIGN_ dANUSVARA dCANDRA dHALANTA",
    "dNUKTA dVISARGA cVIRAMA cVOWEL_ dSIGN_ eAA eAI eAU eE eI eII eO eU eUU eVOCALIC_ fR",
    "aMASCULINE_ bORDINAL_ cINDICATOR aMASK_ bWORK_ cSYMBOL aMASU_ bMARK aMATE_ bDRINK",
    "aMATHEMATICAL_ bBOLD_ cCAPITAL_ dA dALPHA dB dBETA dC dCHI dD dDELTA dDIGAMMA dE dEPSILON",
    "dETA dF dG dGAMMA dH dI dIOTA dJ dK dKAPPA dL dLAMDA dM dMU dN dNU dO dOMEGA dOMICRON dP",
    "dPHI dPI dPSI dQ dR dRHO dS dSIGMA dT dTAU dTHETA dTHETA_ eSYMBOL dU dUPSILON dV dW dX dXI",
    "dY dZ dZETA cDIGIT_ dEIGHT dFIVE dFOUR dNINE dONE dSEVEN dSIX dTHREE dTWO dZERO cEPSILON_",
    "dSYMBOL cFRAKTUR_ dCAPITAL_ eA eB eC eD eE eF eG eH eI eJ eK eL eM eN eO eP eQ eR eS eT eU",
    "eV eW eX eY eZ dSMALL_ eA eB eC eD eE eF eG eH eI eJ eK eL eM eN eO eP eQ eR eS eT eU eV eW",
    "eX eY eZ cITALIC_ dCAPITAL_ eA eALPHA eB eBETA eC eCHI eD eDELTA eE eEPSILON eETA eF eG",
    "eGAMMA eH eI eIOTA eJ eK eKAPPA eL eLAMDA eM eMU eN eNU eO eOMEGA eOMICRON eP ePHI ePI ePSI",
    "eQ eR eRHO eS eSIGMA eT eTAU eTHETA eTHETA_ fSYMBOL eU eUPSILON eV eW eX eXI eY eZ eZETA",
    "dEPSILON_ eSYMBOL dKAPPA_ eSYMBOL dNABLA dPARTIAL_ eDIFFERENTIAL dPHI_ eSYMBOL dPI_ eSYMBOL",
    "dRHO_ eSYMBOL dSMALL_ eA eALPHA eB eBETA eC eCHI eD eDELTA eE eEPSILON eETA eF eFINAL_",
    "fSIGMA eG eGAMMA eH eI eIOTA eJ eK eKAPPA eL eLAMDA eM eMU eN eNU eO eOMEGA eOMICRON eP",
    "ePHI ePI ePSI eQ eR eRHO eS eSIGMA eT eTAU eTHETA eU eUPSILON eV eW eX eXI eY eZ eZETA",
    "dTHETA_ eSYMBOL cKAPPA_ dSYMBOL cNABLA cPARTIAL_ dDIFFERENTIAL cPHI_ dSYMBOL cPI_ dSYMBOL",
    "cRHO_ dSYMBOL cSCRIPT_ dCAPITAL_ eA eB eC eD eE eF eG eH eI eJ eK eL eM eN eO eP eQ eR eS",
    "eT eU eV eW eX eY eZ dSMALL_ eA eB eC eD eE eF eG eH eI eJ eK eL eM eN eO eP eQ eR eS eT eU",
    "eV eW eX eY eZ cSMALL_ dA dALPHA dB dBETA dC dCHI dD dDELTA dDIGAMMA dE dEPSILON dETA dF",
    "dFINAL_ eSIGMA dG dGAMMA dH dI dIOTA dJ dK dKAPPA dL dLAMDA dM dMU dN dNU dO dOMEGA",
    "dOMICRON dP dPHI dPI dPSI dQ dR dRHO dS dSIGMA dT dTAU dTHETA dU dUPSILON dV dW dX dXI dY",
    "dZ dZETA cTHETA_ dSYMBOL bDOUBLE- cSTRUCK_ dCAPITAL_ eA eB eD eE eF eG eI eJ eK eL eM eO eS",
    "eT eU eV eW eX eY dDIGIT_ eEIGHT eFIVE eFOUR eNINE eONE eSEVEN eSIX eTHREE eTWO eZERO",
    "dSMALL_ eA eB eC eD eE eF eG eH eI eJ eK eL eM eN eO eP eQ eR eS eT eU eV eW eX eY eZ",
    "bFALLING_ cDIAGONAL bFRAKTUR_ cCAPITAL_ dA dB dD dE dF dG dJ dK dL dM dN dO dP dQ dS dT dU",
    "dV dW dX dY cSMALL_ dA dB dC dD dE dF dG dH dI dJ dK dL dM dN dO dP dQ dR dS dT dU dV dW dX",
    "dY dZ bITALIC_ cCAPITAL_ dA dALPHA dB dBETA dC dCHI dD dDELTA dE dEPSILON dETA dF dG dGAMMA",
    "dH dI dIOTA dJ dK dKAPPA dL dLAMDA dM dMU dN dNU dO dOMEGA dOMICRON dP dPHI dPI dPSI dQ dR",
    "dRHO dS dSIGMA dT dTAU dTHETA dTHETA_ eSYMBOL dU dUPSILON dV dW dX dXI dY dZ dZETA",
    "cEPSILON_ dSYMBOL cKAPPA_ dSYMBOL cNABLA cPARTIAL_ dDIFFERENTIAL cPHI_ dSYMBOL cPI_ dSYMBOL",
    "cRHO_ dSYMBOL cSMALL_ dA dALPHA dB dBETA dC dCHI dD dDELTA dDOTLESS_ eI eJ dE dEPSILON dETA",
    "dF dFINAL_ eSIGMA dG dGAMMA dI dIOTA dJ dK dKAPPA dL dLAMDA dM dMU dN dNU dO dOMEGA",
    "dOMICRON dP dPHI dPI dPSI dQ dR dRHO dS dSIGMA dT dTAU dTHETA dU dUPSILON dV dW dX dXI dY",
    "dZ dZETA cTHETA_ dSYMBOL bLEFT_ cANGLE_ dBRACKET cDOUBLE_ dANGLE_ eBRACKET cFLATTENED_",
    "dPARENTHESIS cWHITE_ dSQUARE_ eBRACKET dTORTOISE_ eSHELL_ fBRACKET bMONOSPACE_ cCAPITAL_ dA",
    "dB dC dD dE dF dG dH dI dJ dK dL dM dN dO dP dQ dR dS dT dU dV dW dX dY dZ cDIGIT_ dEIGHT",
    "dFIVE dFOUR dNINE dONE dSEVEN dSIX dTHREE dTWO dZERO cSMALL_ dA dB dC dD dE dF dG dH dI dJ",
    "dK dL dM dN dO dP dQ dR dS dT dU dV dW dX dY dZ bRIGHT_ cANGLE_ dBRACKET cDOUBLE_ dANGLE_",
    "eBRACKET cFLATTENED_ dPARENTHESIS cWHITE_ dSQUARE_ eBRACKET dTORTOISE_ eSHELL_ fBRACKET",
    "bRISING_ cDIAGONAL bSANS- cSERIF_ dBOLD_ eCAPITAL_ fA fALPHA fB fBETA fC fCHI fD fDELTA fE",
    "fEPSILON fETA fF fG fGAMMA fH fI fIOTA fJ fK fKAPPA fL fLAMDA fM fMU fN fNU fO fOMEGA",
    "fOMICRON fP fPHI fPI fPSI fQ fR fRHO fS fSIGMA fT fTAU fTHETA fTHETA_ gSYMBOL fU fUPSILON",
    "fV fW fX fXI fY fZ fZETA eDIGIT_ fEIGHT fFIVE fFOUR fNINE fONE fSEVEN fSIX fTHREE fTWO",
    "fZERO eEPSILON_ fSYMBOL eITALIC_ fCAPITAL_ gA gALPHA gB gBETA gC gCHI gD gDELTA gE gEPSILON",
    "gETA gF gG gGAMMA gH gI gIOTA gJ gK gKAPPA gL gLAMDA gM gMU gN gNU gO gOMEGA gOMICRON gP",
    "gPHI gPI gPSI gQ gR gRHO gS gSIGMA gT gTAU gTHETA gTHETA_ hSYMBOL gU gUPSILON gV gW gX gXI",
    "gY gZ gZETA fEPSILON_ gSYMBOL fKAPPA_ gSYMBOL fNABLA fPARTIAL_ gDIFFERENTIAL fPHI_ gSYMBOL",
    "fPI_ gSYMBOL fRHO_ gSYMBOL fSMALL_ gA gALPHA gB gBETA gC gCHI gD gDELTA gE gEPSILON gETA gF",
    "gFINAL_ hSIGMA gG gGAMMA gH gI gIOTA gJ gK gKAPPA gL gLAMDA gM gMU gN gNU gO gOMEGA",
    "gOMICRON gP gPHI gPI gPSI gQ gR gRHO gS gSIGMA gT gTAU gTHETA gU gUPSILON gV gW gX gXI gY",
    "gZ gZETA fTHETA_ gSYMBOL eKAPPA_ fSYMBOL eNABLA ePARTIAL_ fDIFFERENTIAL ePHI_ fSYMBOL ePI_",
    "fSYMBOL eRHO_ fSYMBOL eSMALL_ fA fALPHA fB fBETA fC fCHI fD fDELTA fE fEPSILON fETA fF",
    "fFINAL_ gSIGMA fG fGAMMA fH fI fIOTA fJ fK fKAPPA fL fLAMDA fM fMU fN fNU fO fOMEGA",
    "fOMICRON fP fPHI fPI fPSI fQ fR fRHO fS fSIGMA fT fTAU fTHETA fU fUPSILON fV fW fX fXI fY",
    "fZ fZETA eTHETA_ fSYMBOL dCAPITAL_ eA eB eC eD eE eF eG eH eI eJ eK eL eM eN eO eP eQ eR eS",
    "eT eU eV eW eX eY eZ dDIGIT_ eEIGHT eFIVE eFOUR eNINE eONE eSEVEN eSIX eTHREE eTWO eZERO",
    "dITALIC_ eCAPITAL_ fA fB fC fD fE fF fG fH fI fJ fK fL fM fN fO fP fQ fR fS fT fU fV fW fX",
    "fY fZ eSMALL_ fA fB fC fD fE fF fG fH fI fJ fK fL fM fN fO fP fQ fR fS fT fU fV fW fX fY fZ",
    "dSMALL_ eA eB eC eD eE eF eG eH eI eJ eK eL eM eN eO eP eQ eR eS eT eU eV eW eX eY eZ",
    "bSCRIPT_ cCAPITAL_ dA dC dD dG dJ dK dN dO dP dQ dS dT dU dV dW dX dY dZ cSMALL_ dA dB dC",
    "dD dF dH dI dJ dK dL dM dN dP dQ dR dS dT dU dV dW dX dY dZ aMAXIMIZE aMAYAN_ bNUMERAL_",
    "cEIGHT cEIGHTEEN cELEVEN cFIFTEEN cFIVE cFOUR cFOURTEEN cNINE cNINETEEN cONE cSEVEN",
    "cSEVENTEEN cSIX cSIXTEEN cTEN cTHIRTEEN cTHREE cTWELVE cTWO cZERO aMEASURED_ bANGLE bANGLE_",
    "cOPENING_ dLEFT cWITH_ dOPEN_ eARM_ fENDING_ gIN_ hARROW_ iPOINTING_ jDOWN_ kAND_ lLEFT",
    "lRIGHT jLEFT_ kAND_ lDOWN lUP jRIGHT_ kAND_ lDOWN lUP jUP_ kAND_ lLEFT lRIGHT bBY bRIGHT_",
    "cANGLE_ dWITH_ eDOT aMEAT_ bON_ cBONE aMECHANICAL_ bARM bLEG aMEDEFAIDRIN_ bCAPITAL_",
    "cLETTER_ dA dAI dATIU dB dC dD dE dF dG dH dHP dI dJ dK dKP dL dM dN dNG dNY dO dOE dP dQ",
    "dR dS dT dU dV dW dX dY dYU dZ bCOMMA bDIGIT_ cEIGHT cFIVE cFOUR cNINE cONE cONE_",
    "dALTERNATE_ eFORM cSEVEN cSIX cTHREE cTHREE_ dALTERNATE_ eFORM cTWO cTWO_ dALTERNATE_ eFORM",
    "cZERO bEXCLAMATION_ cOH bFULL_ cSTOP bNUMBER_ cEIGHTEEN cELEVEN cFIFTEEN cFOURTEEN",
    "cNINETEEN cSEVENTEEN cSIXTEEN cTEN cTHIRTEEN cTWELVE bSMALL_ cLETTER_ dA dAI dATIU dB dC dD",
    "dE dF dG dH dHP dI dJ dK dKP dL dM dN dNG dNY dO dOE dP dQ dR dS dT dU dV dW dX dY dYU dZ",
    "bSYMBOL_ cAIVA aMEDIEVAL_ bCOMMA bEXCLAMATION_ cMARK bQUESTION_ cMARK aMEDIUM_ bBLACK_",
    "cCIRCLE bBOLD_ cWHITE_ dCIRCLE bEIGHT_ cPOINTED_ dBLACK_ eSTAR cSPOKED_ dASTERISK bFIVE_",
    "cSPOKED_ dASTERISK bFLATTENED_ cLEFT_ dPARENTHESIS_ eORNAMENT cRIGHT_ dPARENTHESIS_",
    "eORNAMENT bFOUR_ cPOINTED_ dBLACK_ eSTAR dPINWHEEL_ eSTAR bGREEK_ cCROSS bLEFT- cPOINTING_",
    "dANGLE_ eBRACKET_ fORNAMENT bLEFT_ cCURLY_ dBRACKET_ eORNAMENT cPARENTHESIS_ dORNAMENT",
    "bMATHEMATICAL_ cSPACE bRIGHT- cPOINTING_ dANGLE_ eBRACKET_ fORNAMENT bRIGHT_ cCURLY_",
    "dBRACKET_ eORNAMENT cPARENTHESIS_ dORNAMENT bSALTIRE bSHADE bSIX_ cPOINTED_ dBLACK_ eSTAR",
    "cSPOKED_ dASTERISK bSMALL_ cWHITE_ dCIRCLE bTHREE_ cPOINTED_ dBLACK_ eSTAR dPINWHEEL_ eSTAR",
    "bVERTICAL_ cBAR bWHITE_ cCIRCLE cSQUARE aMEETEI_ bMAYEK_ cAHANG_ dKHUDAM cANJI cAPUN_ dIYEK",
    "cCHEIKHAN cCHEIKHEI cDIGIT_ dEIGHT dFIVE dFOUR dNINE dONE dSEVEN dSIX dTHREE dTWO dZERO",
    "cLETTER_ dATIYA dBA dBHAM dCHA dCHIL dDDA dDDHA dDHOU dDIL dE dGHOU dGOK dHUK dI dI_",
    "eLONSUM dJHAM dJIL dKHOU dKOK dKOK_ eLONSUM dLAI dLAI_ eLONSUM dMIT dMIT_ eLONSUM dNA dNA_",
    "eLONSUM dNGOU dNGOU_ eLONSUM dNNA dNYA dO dPA dPA_ eLONSUM dPHAM dRAI dSAM dSHA dSSA dTHOU",
    "dTIL dTIL_ eLONSUM dTTA dTTHA dUN dWAI dYANG cLUM_ dIYEK cSYLLABLE_ dREPETITION_ eMARK",
    "cVIRAMA cVOWEL_ dSIGN_ eAAI eAAU eANAP eAU eCHEINAP eII eINAP eNUNG eONAP eSOUNAP eUNAP eUU",
    "eVISARGA eYENAP cWORD_ dREPETITION_ eMARK aMELON aMELTING_ bFACE aMEMO aMENDE_ bKIKAKUI_",
    "cCOMBINING_ dNUMBER_ eHUNDREDS eHUNDRED_ fTHOUSANDS eMILLIONS eTEENS eTENS eTEN_ fTHOUSANDS",
    "eTHOUSANDS cDIGIT_ dEIGHT dFIVE dFOUR dNINE dONE dSEVEN dSIX dTHREE dTWO cSYLLABLE_ dM001_",
    "eKI dM002_ eKA dM003_ eKU dM004_ eWI dM005_ eWA dM006_ eWU dM007_ eMIN dM008_ eMAN dM009_",
    "eMUN dM010_ eBI dM011_ eBA dM012_ eBU dM013_ eI dM014_ eA dM015_ eU dM016_ eDI dM017_ eDA",
    "dM018_ eDU dM019_ eSI dM020_ eSA dM021_ eSU dM022_ eTI dM023_ eTA dM024_ eTU dM025_ eLI",
    "dM026_ eLA dM027_ eLU dM028_ eJI dM029_ eJA dM030_ eJU dM031_ eYI dM032_ eYA dM033_ eYU",
    "dM034_ eFI dM035_ eFA dM036_ eFU dM037_ eNIN dM038_ eNAN dM039_ eNUN dM040_ eHEE dM041_ eHA",
    "dM042_ eHOO dM043_ eNGGA dM044_ eKPEE dM045_ eWO dM046_ eHUAN dM047_ eMBEE dM048_ eKO",
    "dM049_ eWVA dM050_ ePU dM051_ ePE dM052_ eHEN dM053_ eHIN dM054_ eLOO dM055_ eTE dM056_",
    "eGBA dM057_ eNGON dM058_ eNYAN dM059_ eMEN dM060_ eNYON dM061_ eWVI dM062_ eMBA dM063_ eJO",
    "dM064_ eNDO dM065_ eKEE dM066_ ePO dM067_ eNDOO dM068_ ePI dM069_ eTO dM070_ eGBO dM071_",
    "eGBOO dM072_ eMBE dM073_ eLE dM074_ eKPU dM075_ eFE dM076_ eKOO dM077_ eVO dM078_ eFEE",
    "dM079_ eSO dM080_ eYE dM081_ ePEE dM082_ eNGGU dM083_ eHEEI dM084_ eLEE dM085_ eVE dM086_",
    "eLONG_ fNGGE dM087_ eHUN dM088_ eFO dM089_ eDEE dM090_ eNGGI dM091_ eTEE dM092_ eKPA dM093_",
    "eGBEE dM094_ eMON dM095_ eKE dM096_ eHE dM097_ eBE dM098_ eNYEN dM099_ ePA dM100_ eE dM101_",
    "eFAN dM102_ ePOO dM103_ eBOO dM104_ eTOO dM105_ eLONG_ fMBOO dM106_ eLONG_ fNGGOO dM107_",
    "eGBE dM108_ eKPE dM109_ eYEE dM110_ eLONG_ fLE dM111_ eGA dM112_ eKPOO dM113_ eJE dM114_",
    "eWOO dM115_ eNGGEE dM116_ eSE dM117_ eNEN dM118_ eWE dM119_ eNDE dM120_ eNGGO dM121_ eYO",
    "dM122_ eMBU dM123_ eNDI dM124_ eGBI dM125_ eNDU dM126_ eWEE dM127_ eNGGUA dM128_ eHOOU",
    "dM129_ eNDA dM130_ eHAN dM131_ eIN dM132_ eKPI dM133_ eFOO dM134_ eNJOO dM135_ eIN dM136_",
    "eSOO dM137_ eEI dM138_ eBO dM139_ eWVE dM140_ eHO dM141_ eYOO dM142_ eLONG_ fMBO dM143_",
    "eWEI dM144_ eVOO dM145_ eMBI dM146_ eNGGE dM147_ eO dM148_ eGBU dM149_ eNJEE dM150_ eBEE",
    "dM151_ eVU dM152_ eNJA dM153_ eLO dM154_ eMUAN dM155_ eGI dM156_ eNGGOO dM157_ eJEE dM158_",
    "eKPO dM159_ eNGGAA dM160_ eJOO dM161_ eLONG_ fMBE dM162_ eSEE dM163_ eEE dM164_ eNYIN",
    "dM165_ eOO dM166_ eGUEI dM167_ eGUAN dM168_ eGU dM169_ eNON dM170_ eNYUN dM171_ eRA dM172_",
    "eMBOO dM173_ eVEE dM174_ eMBO dM175_ eLONG_ fJO dM176_ eHI dM177_ eNGUAN dM178_ eEN dM179_",
    "eKUA dM180_ eDOO dM181_ eDO dM182_ eVI dM183_ eLONG_ fNGGO dM184_ eNGEN dM185_ eVA dM186_",
    "eHU dM187_ eMBUU dM188_ eMBEE dM189_ eMUEN dM190_ eGEE dM191_ eNDEE dM192_ eNJU dM193_ eHON",
    "dM194_ eWUI dM195_ eAN dM196_ eSIA dM197_ eFUA aMENORAH_ bWITH_ cNINE_ dBRANCHES aMENS_",
    "bSYMBOL aMERCURY aMEROITIC_ bCURSIVE_ cFRACTION_ dEIGHT_ eTWELFTHS dELEVEN_ eTWELFTHS",
    "dFIVE_ eTWELFTHS dFOUR_ eTWELFTHS dNINE_ eTWELFTHS dONE_ eHALF eTWELFTH dSEVEN_ eTWELFTHS",
    "dSIX_ eTWELFTHS dTEN_ eTWELFTHS dTHREE_ eTWELFTHS dTWO_ eTWELFTHS cLETTER_ dA dARCHAIC_ eSA",
    "dBA dDA dE dHHA dI dKA dKHA dLA dMA dNA dNE dO dPA dQA dRA dSA dSE dTA dTE dTO dWA dYA",
    "cLOGOGRAM_ dIMN dRMT cNUMBER_ dEIGHT dEIGHTY_ eTHOUSAND dEIGHT_ eHUNDRED eHUNDRED_",
    "fTHOUSAND eTHOUSAND dFIFTY dFIFTY_ eTHOUSAND dFIVE dFIVE_ eHUNDRED eHUNDRED_ fTHOUSAND",
    "eTHOUSAND dFORTY dFORTY_ eTHOUSAND dFOUR dFOUR_ eHUNDRED eHUNDRED_ fTHOUSAND eTHOUSAND",
    "dNINE dNINETY_ eTHOUSAND dNINE_ eHUNDRED eHUNDRED_ fTHOUSAND eTHOUSAND dONE dONE_ eHUNDRED",
    "eHUNDRED_ fTHOUSAND eTHOUSAND dSEVEN dSEVENTY dSEVENTY_ eTHOUSAND dSEVEN_ eHUNDRED",
    "eHUNDRED_ fTHOUSAND eTHOUSAND dSIX dSIXTY dSIXTY_ eTHOUSAND dSIX_ eHUNDRED eHUNDRED_",
    "fTHOUSAND eTHOUSAND dTEN dTEN_ eTHOUSAND dTHIRTY dTHIRTY_ eTHOUSAND dTHREE dTHREE_ eHUNDRED",
    "eHUNDRED_ fTHOUSAND eTHOUSAND dTWENTY dTWENTY_ eTHOUSAND dTWO dTWO_ eHUNDRED eHUNDRED_",
    "fTHOUSAND eTHOUSAND bHIEROGLYPHIC_ cLETTER_ dA dBA dBA- e2 dDA dE dHHA dI dKA dKHA dLA dMA",
    "dNA dNA- e2 dNE dNE- e2 dO dPA dQA dRA dRA- e2 dSA dSA- e2 dSE dTA dTA- e2 dTE dTE- e2 dTO",
    "dWA dYA cSYMBOL_ dVIDJ dVIDJ- e2 aMERPERSON aMESSAGE_ bWAITING aMETRICAL_ bBREVE bLONG_",
    "cOVER_ dSHORT dTWO_ eSHORTS bPENTASEME bSHORT_ cOVER_ dLONG bTETRASEME bTRISEME bTWO_",
    "cSHORTS_ dJOINED dOVER_ eLONG aMETRO aMIAO_ bLETTER_ cAH cARCHAIC_ dMA dNA dNGA dZZA cBA",
    "cBRI cDA cDDA cDLHA cDLHYA cDZA cDZHA cDZYI cDZZA cFA cGA cGHA cGHHA cHA cHHA cKA cLA cLHA",
    "cLHYA cLYA cMA cMHA cNA cNASALIZATION cNGA cNGHA cNHA cNNA cNNHA cNYA cNYHA cPA cPLA cQA",
    "cQGA cREFORMED_ dTONE- e1 e2 e4 e5 e6 e8 dTSHA cRTE cSA cSHA cSSA cSYI cTA cTE cTLHA cTLHYA",
    "cTONE- d2 d3 d4 d5 d6 d7 d8 cTSA cTSE cTSHA cTSSA cTTA cVA cVFA cWA cXA cYI_ dDZHA dKA dNNA",
    "dPA dTA dTSA dTSHA dTTA cZA cZHA cZSA cZSHA cZZA cZZSA cZZSYA cZZYA bSIGN_ cASPIRATION",
    "cCONSONANT_ dMODIFIER_ eBAR cREFORMED_ dASPIRATION dVOICING bTONE_ cABOVE cBELOW cRIGHT",
    "cTOP_ dRIGHT bVOWEL_ cSIGN_ dA dAA dAE dAEE dAHH dAI dAN dANG dAU dE dEA dEI dEN dENG dER",
    "dERR dI dIA dIAN dIANG dIE dIG dII dING dIO dIONG dIU dN dNG dO dOER dOEY dOG dOO dOU",
    "dROUNDED_ eER eERR dU dUA dUAN dUANG dUEI dUI dUNG dUOG dUU dVW dW dWO dY dYI dYUI aMICROBE",
    "aMICROPHONE aMICROSCOPE aMICRO_ bSIGN aMICR_ bDASH_ cSYMBOL bON_ cUS_ dSYMBOL aMIDDLE_ bDOT",
    "bTHIRD_ cWHITE_ dRIGHT_ ePOINTING_ fINDEX aMIDLINE_ bHORIZONTAL_ cELLIPSIS aMILITARY_",
    "bHELMET bMEDAL aMILKY_ bWAY aMILL_ bSIGN aMINIBUS aMINIDISC aMINIMIZE aMINUS- bOR- cPLUS_",
    "dSIGN aMINUS_ bSIGN bSIGN_ cIN_ dTRIANGLE cWITH_ dCOMMA_ eABOVE dDOT_ eBELOW dFALLING_",
    "eDOTS dRISING_ eDOTS bTILDE aMINY aMIRROR aMIRROR_ bBALL aMMSP aMOBILE_ bPHONE bPHONE_ cOFF",
    "cWITH_ dRIGHTWARDS_ eARROW_ fAT_ gLEFT aMODELS aMODERN_ bPENTATHLON aMODIFIER_ bBREVE_",
    "cWITH_ dINVERTED_ eBREVE bLETTER_ cACUTE_ dACCENT cALVEOLAR_ dCLICK cAPOSTROPHE cBEGIN_",
    "dHIGH_ eTONE dLOW_ eTONE cBILABIAL_ dCLICK cCAPITAL_ dA dAE dB dBARRED_ eB dC dD dE dF dG",
    "dH dH_ eWITH_ fSTROKE dI dJ dK dL dM dN dO dOU dP dQ dR dREVERSED_ eE eN dT dU dV dW",
    "cCENTRED_ dLEFT_ eHALF_ fRING dRIGHT_ eHALF_ fRING cCHINESE_ dTONE_ eYANG_ fPING fQU fRU",
    "fSHANG eYIN_ fPING fQU fRU fSHANG cCIRCUMFLEX_ dACCENT cCOLON cCROSS_ dACCENT cCYRILLIC_",
    "dEN dHARD_ eSIGN dSOFT_ eSIGN cDENTAL_ dCLICK cDOT_ dHORIZONTAL_ eBAR dSLASH dVERTICAL_",
    "eBAR cDOUBLE_ dAPOSTROPHE dPRIME cDOWN_ dARROWHEAD dTACK cEND_ dHIGH_ eTONE dLOW_ eTONE",
    "cEXTRA- dHIGH_ eDOTTED_ fLEFT- gSTEM_ hTONE_ iBAR fTONE_ gBAR eLEFT- fSTEM_ gTONE_ hBAR",
    "eTONE_ fBAR dLOW_ eDOTTED_ fLEFT- gSTEM_ hTONE_ iBAR fTONE_ gBAR eLEFT- fSTEM_ gTONE_ hBAR",
    "eTONE_ fBAR cGEORGIAN_ dNAR cGLOTTAL_ dSTOP dSTOP_ eWITH_ fSTROKE cGRAVE_ dACCENT cHALF_",
    "dTRIANGULAR_ eCOLON cHIGH_ dDOTTED_ eLEFT- fSTEM_ gTONE_ hBAR eTONE_ fBAR dLEFT- eSTEM_",
    "fTONE_ gBAR dTONE_ eBAR cLATERAL_ dCLICK cLEFT_ dARROWHEAD dHALF_ eRING dTACK cLOWER_",
    "dRIGHT_ eCORNER_ fANGLE cLOW_ dACUTE_ eACCENT dCIRCUMFLEX_ eACCENT dDOTTED_ eLEFT- fSTEM_",
    "gTONE_ hBAR eTONE_ fBAR dDOWN_ eARROWHEAD dGRAVE_ eACCENT dINVERTED_ eEXCLAMATION_ fMARK",
    "dLEFT- eSTEM_ fTONE_ gBAR dLEFT_ eARROW eARROWHEAD dMACRON dRIGHT_ eARROWHEAD dRING dTILDE",
    "dTONE_ eBAR dUP_ eARROWHEAD dVERTICAL_ eLINE cMACRON cMIDDLE_ dDOUBLE_ eACUTE_ fACCENT",
    "eGRAVE_ fACCENT dGRAVE_ eACCENT cMID_ dDOTTED_ eLEFT- fSTEM_ gTONE_ hBAR eTONE_ fBAR dLEFT-",
    "eSTEM_ fTONE_ gBAR dTONE_ eBAR cMINUS_ dSIGN cOPEN_ dSHELF cPLUS_ dSIGN cPRIME cRAISED_",
    "dCOLON dDOWN_ eARROW dEXCLAMATION_ eMARK dINVERTED_ eEXCLAMATION_ fMARK dUP_ eARROW",
    "cRETROFLEX_ dCLICK_ eWITH_ fRETROFLEX_ gHOOK cREVERSED_ dCOMMA dGLOTTAL_ eSTOP eSTOP_",
    "fWITH_ gSTROKE cRHOTIC_ dHOOK cRIGHT_ dARROWHEAD dHALF_ eRING dTACK cSHELF cSHORT_ dEQUALS_",
    "eSIGN cSMALL_ dA dAE dAIN dALPHA dB dBARRED_ eO dBETA dBOTTOM_ eHALF_ fO dB_ eWITH_ fHOOK",
    "dC dCAPITAL_ eAA eB eG eG_ fWITH_ gHOOK eH eI eINVERTED_ fR eI_ fWITH_ gSTROKE eL eL_",
    "fWITH_ gBELT eN eOE eR eU eY dCHI dCLOSED_ eOMEGA eREVERSED_ fOPEN_ gE dC_ eWITH_ fCURL dD",
    "dDELTA dDEZH_ eDIGRAPH dDOTLESS_ eJ_ fWITH_ gSTROKE gSTROKE_ hAND_ iHOOK dDZ_ eDIGRAPH",
    "eDIGRAPH_ fWITH_ gCURL gRETROFLEX_ hHOOK dD_ eWITH_ fHOOK fHOOK_ gAND_ hTAIL fTAIL dE dENG",
    "dESH dETH dEZH dF dFENG_ eDIGRAPH dG dGAMMA dGREEK_ eGAMMA ePHI dG_ eWITH_ fHOOK dH dHENG",
    "dHENG_ eWITH_ fHOOK dH_ eWITH_ fHOOK fSTROKE dIOTA dI_ eWITH_ fSTROKE dJ dJ_ eWITH_",
    "fCROSSED- gTAIL dK dL dLEZH dLEZH_ eWITH_ fRETROFLEX_ gHOOK dLIGATURE_ eOE dLS_ eDIGRAPH",
    "dLZ_ eDIGRAPH dL_ eWITH_ fBELT fINVERTED_ gLAZY_ hS fMIDDLE_ gTILDE fPALATAL_ gHOOK",
    "fRETROFLEX_ gHOOK gHOOK_ hAND_ iBELT dM dM_ eWITH_ fHOOK dN_ eWITH_ fLEFT_ gHOOK",
    "fRETROFLEX_ gHOOK dO dOPEN_ eE eO dO_ eWITH_ fSTROKE dP dPHI dQ dR dRAMS_ eHORN dREVERSED_",
    "eE eGLOTTAL_ fSTOP eOPEN_ fE dR_ eWITH_ fFISHHOOK fTAIL dS dSCHWA dSCRIPT_ eG dSIDEWAYS_ eU",
    "dS_ eWITH_ fCURL fHOOK dT dTC_ eDIGRAPH_ fWITH_ gCURL dTESH_ eDIGRAPH dTHETA dTOP_ eHALF_",
    "fO dTS_ eDIGRAPH eDIGRAPH_ fWITH_ gRETROFLEX_ hHOOK dTURNED_ eA eAE eALPHA eH eI eM eM_",
    "fWITH_ gLONG_ hLEG eOPEN_ fE eR eR_ fWITH_ gHOOK gLONG_ hLEG hLEG_ iAND_ jRETROFLEX_ kHOOK",
    "eV eW eY eY_ fWITH_ gBELT dT_ eWITH_ fPALATAL_ gHOOK fRETROFLEX_ gHOOK dU dUPSILON dU_ eBAR",
    "eWITH_ fLEFT_ gHOOK dV dV_ eWITH_ fHOOK fRIGHT_ gHOOK dW dX dY dZ dZ_ eWITH_ fCURL",
    "fRETROFLEX_ gHOOK cSTRESS_ dAND_ eHIGH_ fTONE eLOW_ fTONE cSUPERSCRIPT_ dHALF_ eTRIANGULAR_",
    "fCOLON dTRIANGULAR_ eCOLON cTRIANGULAR_ dCOLON cTURNED_ dCOMMA cUNASPIRATED cUP_ dARROWHEAD",
    "dTACK cUS cVERTICAL_ dLINE cVOICING cYANG_ dDEPARTING_ eTONE_ fMARK cYIN_ dDEPARTING_",
    "eTONE_ fMARK aMODI_ bABBREVIATION_ cSIGN bDANDA bDIGIT_ cEIGHT cFIVE cFOUR cNINE cONE",
    "cSEVEN cSIX cTHREE cTWO cZERO bDOUBLE_ cDANDA bLETTER_ cA cAA cAI cAU cBA cBHA cCA cCHA cDA",
    "cDDA cDDHA cDHA cE cGA cGHA cHA cI cII cJA cJHA cKA cKHA cLA cLLA cMA cNA cNGA cNNA cNYA cO",
    "cPA cPHA cRA cSA cSHA cSSA cTA cTHA cTTA cTTHA cU cUU cVA cVOCALIC_ dL dLL dR dRR cYA",
    "bSIGN_ cANUSVARA cARDHACANDRA cHUVA cVIRAMA cVISARGA bVOWEL_ cSIGN_ dAA dAI dAU dE dI dII",
    "dO dU dUU dVOCALIC_ eL eLL eR eRR aMODULO_ bTWO_ cSUM aMONEY- bMOUTH_ cFACE aMONEY_ bBAG",
    "bWITH_ cWINGS aMONGOLIAN_ bBIRGA bBIRGA_ cWITH_ dDOUBLE_ eORNAMENT dORNAMENT bCOLON bCOMMA",
    "bDIGIT_ cEIGHT cFIVE cFOUR cNINE cONE cSEVEN cSIX cTHREE cTWO cZERO bDOUBLE_ cBIRGA_ dWITH_",
    "eORNAMENT bELLIPSIS bFOUR_ cDOTS bFREE_ cVARIATION_ dSELECTOR_ eFOUR eONE eTHREE eTWO",
    "bFULL_ cSTOP bINVERTED_ cBIRGA cBIRGA_ dWITH_ eDOUBLE_ fORNAMENT bLETTER_ cA cALI_ dGALI_",
    "eA eAH eANUSVARA_ fONE eBALUDA eCA eDA eDAGALGA eDAMARU eDDA eHALF_ fU fYA eI eINVERTED_",
    "fUBADAMA eKA eNGA eNNA ePA ePHA eSSA eTA eTHREE_ fBALUDA eTTA eTTHA eUBADAMA eVISARGA_ fONE",
    "eZA eZHA cANG cBA cCHA cCHA_ dWITH_ eTWO_ fDOTS cCHI cDA cE cEE cFA cGA cHAA cI cJA cKA",
    "cKHA cLA cLHA cMA cMANCHU_ dALI_ eGALI_ fBHA fCA fCYA fDDHA fDHA fGHA fJHA fLHA fNGA fSSA",
    "fTA fTTA fZA fZHA dFA dI dKA dRA dZHA cNA cO cOE cPA cQA cRA cSA cSHA cSIBE_ dANG dCHA dDA",
    "dE dFA dGA dGAA dHA dHAA dI dIY dJA dKA dPA dRAA dSHA dTA dTSA dU dUE dZA dZHA cTA cTODO_",
    "dALI_ eGALI_ fTA fZHA dANG dBA dCHA dDA dDZA dE dGA dGAA dHAA dI dJA dJIA dKA dLONG_",
    "eVOWEL_ fSIGN dMA dNIA dO dOE dPA dQA dTA dTSA dU dUE dWA dYA cTSA cU cUE cWA cYA cZA cZHI",
    "cZRA bMANCHU_ cCOMMA cFULL_ dSTOP bNIRUGU bROTATED_ cBIRGA cBIRGA_ dWITH_ eDOUBLE_",
    "fORNAMENT eORNAMENT bSIBE_ cSYLLABLE_ dBOUNDARY_ eMARKER bSWIRL_ cBIRGA cBIRGA_ dWITH_",
    "eDOUBLE_ fORNAMENT eORNAMENT bTODO_ cSOFT_ dHYPHEN bTRIPLE_ cBIRGA_ dWITH_ eORNAMENT",
    "bTURNED_ cSWIRL_ dBIRGA_ eWITH_ fDOUBLE_ gORNAMENT bVOWEL_ cSEPARATOR aMONKEY aMONKEY_",
    "bFACE aMONOGRAM_ bFOR_ cEARTH cYANG cYIN aMONORAIL aMONOSTABLE_ bSYMBOL aMOOD_ bBUBBLE",
    "aMOON_ bCAKE bVIEWING_ cCEREMONY aMOSQUE aMOSQUITO aMOTHER_ bCHRISTMAS aMOTORIZED_",
    "bWHEELCHAIR aMOTORWAY aMOTOR_ bBOAT bSCOOTER aMOUNTAIN aMOUNTAIN_ bBICYCLIST bCABLEWAY",
    "bRAILWAY aMOUNT_ bFUJI aMOUSE aMOUSE_ bFACE bTRAP aMOUTH aMOVIE_ bCAMERA aMOYAI aMRO_",
    "bDANDA bDIGIT_ cEIGHT cFIVE cFOUR cNINE cONE cSEVEN cSIX cTHREE cTWO cZERO bDOUBLE_ cDANDA",
    "bLETTER_ cA cBA cCHU cDA cDAI cE cEA cHAI cHAO cKEAAE cKHAI cKO cLA cLAN cMAEM cMIM cNGI",
    "cNIN cO cOL cOO cPA cPHI cRI cRO cSHI cTA cTEK cTHEA cWA cYO aMUCH_ bGREATER- cTHAN bLESS-",
    "cTHAN aMULTANI_ bLETTER_ cA cBA cBHA cCA cCHA cDA cDDA cDDDA cDDHA cDHA cE cGA cGHA cHA cI",
    "cJA cJJA cKA cKHA cLA cMA cNA cNNA cNYA cPA cPHA cRA cRHA cRRA cSA cTA cTHA cTTA cTTHA cU",
    "cVA cYA bSECTION_ cMARK aMULTIMAP aMULTIPLE_ bMUSICAL_ cNOTES aMULTIPLICATION_ bSIGN bSIGN_",
    "cIN_ dDOUBLE_ eCIRCLE dLEFT_ eHALF_ fCIRCLE dRIGHT_ eHALF_ fCIRCLE dTRIANGLE cWITH_ dDOT_",
    "eABOVE dUNDERBAR bX aMULTISET aMULTISET_ bMULTIPLICATION bUNION aMUSHROOM aMUSICAL_",
    "bKEYBOARD bKEYBOARD_ cWITH_ dJACKS bNOTE bSCORE bSYMBOL_ cARPEGGIATO_ dDOWN dUP cBEGIN_",
    "dBEAM dPHRASE dSLUR dTIE cBRACE cBRACKET cBREATH_ dMARK cBREVE cBREVIS cBREVIS_ dREST",
    "cCAESURA cCIRCLE_ dX_ eNOTEHEAD cCLIMACUS cCLIVIS cCLUSTER_ dNOTEHEAD_ eBLACK eWHITE cCODA",
    "cCOMBINING_ dACCENT dACCENT- eSTACCATO dAUGMENTATION_ eDOT dBEND dDOIT dDOUBLE_ eTONGUE",
    "dDOWN_ eBOW dFLAG- e1 e2 e3 e4 e5 dFLIP dHARMONIC dLOURE dMARCATO dMARCATO- eSTACCATO dRIP",
    "dSMEAR dSNAP_ ePIZZICATO dSPRECHGESANG_ eSTEM dSTACCATISSIMO dSTACCATO dSTEM dTENUTO",
    "dTREMOLO- e1 e2 e3 dTRIPLE_ eTONGUE dUP_ eBOW cCOMMON_ dTIME cCRESCENDO cCROIX cCUT_ dTIME",
    "cC_ dCLEF cDAL_ dSEGNO cDAMP cDAMP_ dALL cDASHED_ dBARLINE cDA_ dCAPO cDECRESCENDO cDEGREE_",
    "dSLASH cDOUBLE_ dBARLINE dFLAT dSHARP cDRUM_ dCLEF- e1 e2 cEIGHTH_ dNOTE dREST cEND_ dBEAM",
    "dOF_ eSTIMME dPHRASE dSLUR dTIE cFERMATA cFERMATA_ dBELOW cFINAL_ dBARLINE cFINGERED_",
    "dTREMOLO- e1 e2 e3 cFIVE- dLINE_ eSTAFF cFLAT_ dDOWN dUP cFORTE cFOUR- dLINE_ eSTAFF",
    "dSTRING_ eFRETBOARD cFUSA_ dBLACK dWHITE cF_ dCLEF dCLEF_ eOTTAVA_ fALTA fBASSA cGLISSANDO_",
    "dDOWN dUP cGRACE_ dNOTE_ eNO_ fSLASH eSLASH cGREGORIAN_ dC_ eCLEF dF_ eCLEF cG_ dCLEF",
    "dCLEF_ eOTTAVA_ fALTA fBASSA cHALF_ dNOTE dPEDAL_ eMARK dREST cHAUPTSTIMME cINVERTED_ dTURN",
    "cKIEVAN_ dC_ eCLEF dEIGHTH_ eNOTE_ fSTEM_ gDOWN gUP dEND_ eOF_ fPIECE dFINAL_ eNOTE dFLAT_",
    "eSIGN dHALF_ eNOTE dQUARTER_ eNOTE_ fSTEM_ gDOWN gUP dRECITATIVE_ eMARK dWHOLE_ eNOTE",
    "cKORON cLEFT_ dREPEAT_ eSIGN cLONGA cLONGA_ dIMPERFECTA_ eREST dPERFECTA_ eREST cMAXIMA",
    "cMEZZO cMINIMA cMINIMA_ dBLACK dREST cMOON_ dNOTEHEAD_ eBLACK eWHITE cMULTIPLE_ dMEASURE_",
    "eREST cMULTI_ dREST cNATURAL_ dDOWN dUP cNEBENSTIMME cNOTEHEAD_ dBLACK cNULL_ dNOTEHEAD",
    "cONE- dLINE_ eSTAFF cONE_ dHUNDRED_ eTWENTY- fEIGHTH_ gNOTE gREST cORNAMENT_ dSTROKE- e1",
    "e10 e11 e2 e3 e4 e5 e6 e7 e8 e9 cOTTAVA_ dALTA dBASSA cPARENTHESIS_ dNOTEHEAD cPEDAL_ dMARK",
    "dUP_ eMARK cPES_ dSUBPUNCTIS cPIANO cPLUS_ dNOTEHEAD cPODATUS cPORRECTUS cPORRECTUS_",
    "dFLEXUS cQUARTER_ dNOTE dREST dTONE_ eFLAT eSHARP cQUINDICESIMA_ dALTA dBASSA cREPEATED_",
    "dFIGURE- e1 e2 e3 cREPEAT_ dDOTS cREVERSE_ dFINAL_ eBARLINE cRIGHT_ dREPEAT_ eSIGN",
    "cRINFORZANDO cSCANDICUS cSCANDICUS_ dFLEXUS cSEGNO cSEMIBREVIS_ dBLACK dREST dWHITE",
    "cSEMIMINIMA_ dBLACK dREST dWHITE cSHARP_ dDOWN dUP cSHORT_ dBARLINE cSINGLE_ dBARLINE cSIX-",
    "dLINE_ eSTAFF dSTRING_ eFRETBOARD cSIXTEENTH_ dNOTE dREST cSIXTY- dFOURTH_ eNOTE eREST",
    "cSORI cSQUARE_ dB dNOTEHEAD_ eBLACK eWHITE cSUBITO cTEMPUS_ dIMPERFECTUM_ eCUM_",
    "fPROLATIONE_ gIMPERFECTA gIMPERFECTA_ hDIMINUTION- i1 i2 i3 gPERFECTA dPERFECTUM_ eCUM_",
    "fPROLATIONE_ gIMPERFECTA gPERFECTA gPERFECTA_ hDIMINUTION- i1 cTHIRTY- dSECOND_ eNOTE eREST",
    "cTHREE- dLINE_ eSTAFF cTORCULUS cTORCULUS_ dRESUPINUS cTR cTRIANGLE- dROUND_ eNOTEHEAD_",
    "fDOWN_ gBLACK gWHITE cTRIANGLE_ dNOTEHEAD_ eDOWN_ fBLACK fWHITE eLEFT_ fBLACK fWHITE",
    "eRIGHT_ fBLACK fWHITE eUP_ fBLACK fRIGHT_ gBLACK gWHITE fWHITE cTURN cTURN_ dSLASH dUP",
    "cTWO- dLINE_ eSTAFF cVIRGA cVOID_ dNOTEHEAD cWHOLE_ dNOTE dREST cWITH_ dFINGERNAILS cX_",
    "dNOTEHEAD cZ aMUSIC_ bFLAT_ cSIGN bNATURAL_ cSIGN bSHARP_ cSIGN aMVS aMW aMYANMAR_",
    "bCONSONANT_ cSIGN_ dMEDIAL_ eHA eRA eWA eYA dMON_ eMEDIAL_ fLA fMA fNA dSHAN_ eMEDIAL_ fWA",
    "bDIGIT_ cEIGHT cFIVE cFOUR cNINE cONE cSEVEN cSIX cTHREE cTWO cZERO bLETTER_ cA cAITON_ dRA",
    "cAU cBA cBHA cCA cCHA cDA cDDA cDDHA cDHA cE cEASTERN_ dPWO_ eKAREN_ fGHWA fNNA fYWA cGA",
    "cGHA cGREAT_ dSA cHA cI cII cJA cJHA cKA cKHA cKHAMTI_ dCA dCHA dDDA dDDHA dDHA dFA dGA dHA",
    "dHHA dJA dJHA dLLA dNA dNYA dRA dSA dTTA dTTHA dXA dZA cLA cLLA cMA cMON_ dBBA dBBE dE dJHA",
    "dNGA cNA cNGA cNNA cNNYA cNYA cO cPA cPHA cRA cRUMAI_ dPALAUNG_ eFA cSA cSGAW_ dKAREN_ eSHA",
    "cSHA cSHAN_ dA dBA dBHA dCA dCHA dDA dFA dGA dGHA dHA dJHA dKA dKHA dNA dNNA dNYA dPHA dTHA",
    "dZA cSHWE_ dPALAUNG_ eCHA eSHA cSSA cTA cTAI_ dLAING_ eBA eBHA eDA eDDA eDDHA eDHA eFA eGA",
    "eGHA eJA eJHA eLLA eNNA eNYA cTHA cTTA cTTHA cU cUU cVOCALIC_ dL dLL dR dRR cWA cWESTERN_",
    "dPWO_ eKAREN_ fPWA fTHA cYA bLOGOGRAM_ cKHAMTI_ dHM dOAY dQN bMODIFIER_ cLETTER_ dKHAMTI_",
    "eREDUPLICATION dSHAN_ eREDUPLICATION bSHAN_ cDIGIT_ dEIGHT dFIVE dFOUR dNINE dONE dSEVEN",
    "dSIX dTHREE dTWO dZERO bSIGN_ cANUSVARA cASAT cDOT_ dBELOW cKHAMTI_ dTONE- e1 e3 cLITTLE_",
    "dSECTION cPAO_ dKAREN_ eTONE cRUMAI_ dPALAUNG_ eTONE- f5 cSECTION cSHAN_ dCOUNCIL_",
    "eEMPHATIC_ fTONE eTONE- f2 f3 dSAW dTONE- e2 e3 e5 e6 cTAI_ dLAING_ eTONE- f2 f5 cVIRAMA",
    "cVISARGA cWESTERN_ dPWO_ eKAREN_ fTONE- g1 g2 g3 g4 g5 bSYMBOL_ cAFOREMENTIONED cAITON_",
    "dEXCLAMATION dONE dTWO cCOMPLETED cGENITIVE cLOCATIVE cSHAN_ dEXCLAMATION dONE bTAI_",
    "cLAING_ dDIGIT_ eEIGHT eFIVE eFOUR eNINE eONE eSEVEN eSIX eTHREE eTWO eZERO bTONE_ cMARK_",
    "dSGAW_ eKAREN_ fHATHI fKE_ gPHO bVOWEL_ cSIGN_ dAA dAI dAITON_ eA eAI dE dE_ eABOVE dGEBA_",
    "eKAREN_ fI dI dII dKAYAH_ eEE eOE eU dMON_ eII eO dSGAW_ eKAREN_ fEU dSHAN_ eAA eE eE_",
    "fABOVE eFINAL_ fY dTALL_ eAA dU dUU dVOCALIC_ eL eLL eR eRR dWESTERN_ ePWO_ fKAREN_ gEU gUE",
    "aN- bARY_ cCIRCLED_ dDOT_ eOPERATOR dPLUS_ eOPERATOR dTIMES_ eOPERATOR cCOPRODUCT",
    "cINTERSECTION cLOGICAL_ dAND dOR cPRODUCT cSQUARE_ dINTERSECTION_ eOPERATOR dUNION_",
    "eOPERATOR cSUMMATION cTIMES_ dOPERATOR cUNION cUNION_ dOPERATOR_ eWITH_ fDOT fPLUS cWHITE_",
    "dVERTICAL_ eBAR aNABATAEAN_ bCRUCIFORM_ cNUMBER_ dFOUR bLETTER_ cALEPH cAYIN cBETH cDALETH",
    "cFINAL_ dALEPH dBETH dHE dKAPH dLAMEDH dMEM dNUN dSHIN dYODH cGIMEL cHE cHETH cKAPH cLAMEDH",
    "cMEM cNUN cPE cQOPH cRESH cSADHE cSAMEKH cSHIN cTAW cTETH cWAW cYODH cZAYIN bNUMBER_ cFIVE",
    "cFOUR cONE cONE_ dHUNDRED cTEN cTHREE cTWENTY cTWO aNABLA aNAIL_ bPOLISH aNAIRA_ bSIGN aNAK",
    "aNAME_ bBADGE aNAND aNANDINAGARI_ bHEADSTROKE bLETTER_ cA cAA cAI cAU cBA cBHA cCA cCHA cDA",
    "cDDA cDDHA cDHA cE cGA cGHA cHA cI cII cJA cJHA cKA cKHA cLA cLLA cMA cNA cNGA cNNA cNYA cO",
    "cPA cPHA cRA cRRA cSA cSHA cSSA cTA cTHA cTTA cTTHA cU cUU cVA cVOCALIC_ dR dRR cYA bSIGN_",
    "cANUSVARA cAVAGRAHA cSIDDHAM cVIRAMA cVISARGA bVOWEL_ cSIGN_ dAA dAI dAU dE dI dII dO",
    "dPRISHTHAMATRA_ eE dU dUU dVOCALIC_ eR eRR aNARROW_ bNO- cBREAK_ dSPACE aNATIONAL_ bDIGIT_",
    "cSHAPES bPARK aNAUSEATED_ bFACE aNAZAR_ bAMULET aNBH aNBSP aNECKTIE aNEGATED_ bDOUBLE_",
    "cVERTICAL_ dBAR_ eDOUBLE_ fRIGHT_ gTURNSTILE aNEGATIVE_ bACKNOWLEDGE bCIRCLED_ cDIGIT_",
    "dZERO cLATIN_ dCAPITAL_ eLETTER_ fA fB fC fD fE fF fG fH fI fJ fK fL fM fN fO fP fQ fR fS",
    "fT fU fV fW fX fY fZ cNUMBER_ dEIGHTEEN dELEVEN dFIFTEEN dFOURTEEN dNINETEEN dSEVENTEEN",
    "dSIXTEEN dTHIRTEEN dTWELVE dTWENTY cSQUARE cTRIANGLE bDIAGONAL_ cCROSS cDIAMOND cMIDDLE_",
    "dRIGHT_ eTO_ fLOWER_ gCENTRE bSQUARED_ cAB cCROSS_ dMARK cIC cLATIN_ dCAPITAL_ eLETTER_ fA",
    "fB fC fD fE fF fG fH fI fJ fK fL fM fN fO fP fQ fR fS fT fU fV fW fX fY fZ cPA cQUESTION_",
    "dMARK cSA cWC aNEITHER_ bAPPROXIMATELY_ cNOR_ dACTUALLY_ eEQUAL_ fTO bA_ cSUBSET_ dOF_",
    "eNOR_ fEQUAL_ gTO cSUPERSET_ dOF_ eNOR_ fEQUAL_ gTO bGREATER- cTHAN_ dNOR_ eEQUAL_ fTO",
    "eEQUIVALENT_ fTO eLESS- fTHAN bLESS- cTHAN_ dNOR_ eEQUAL_ fTO eEQUIVALENT_ fTO eGREATER-",
    "fTHAN aNEL aNEPTUNE aNEPTUNE_ bFORM_ cTWO aNERD_ bFACE aNESSUS aNESTING_ bDOLLS aNEST_",
    "bWITH_ cEGGS aNEUTER aNEUTRAL_ bCHESS_ cBISHOP cBISHOP_ dROTATED_ eNINETY_ fDEGREES eTWO_",
    "fHUNDRED_ gSEVENTY_ hDEGREES cEQUIHOPPER cEQUIHOPPER_ dROTATED_ eNINETY_ fDEGREES cKING",
    "cKING_ dROTATED_ eNINETY_ fDEGREES eTWO_ fHUNDRED_ gSEVENTY_ hDEGREES cKNIGHT cKNIGHT_",
    "dROTATED_ eFORTY- fFIVE_ gDEGREES eNINETY_ fDEGREES eONE_ fHUNDRED_ gTHIRTY- hFIVE_",
    "iDEGREES eTHREE_ fHUNDRED_ gFIFTEEN_ hDEGREES eTWO_ fHUNDRED_ gSEVENTY_ hDEGREES gTWENTY-",
    "hFIVE_ iDEGREES cPAWN cPAWN_ dROTATED_ eNINETY_ fDEGREES eTWO_ fHUNDRED_ gSEVENTY_ hDEGREES",
    "cQUEEN cQUEEN_ dROTATED_ eNINETY_ fDEGREES eTWO_ fHUNDRED_ gSEVENTY_ hDEGREES cROOK cROOK_",
    "dROTATED_ eNINETY_ fDEGREES eTWO_ fHUNDRED_ gSEVENTY_ hDEGREES cTURNED_ dBISHOP dKING",
    "dKNIGHT dPAWN dQUEEN dROOK bFACE aNEWA_ bABBREVIATION_ cSIGN bCOMMA bDANDA bDIGIT_ cEIGHT",
    "cFIVE cFOUR cNINE cONE cSEVEN cSIX cTHREE cTWO cZERO bDOUBLE_ cCOMMA cDANDA bGAP_ cFILLER",
    "bINSERTION_ cSIGN bLETTER_ cA cAA cAI cAU cBA cBHA cCA cCHA cDA cDDA cDDHA cDHA cE cGA cGHA",
    "cHA cI cII cJA cJHA cKA cKHA cLA cLHA cMA cMHA cNA cNGA cNGHA cNHA cNNA cNYA cNYHA cO cPA",
    "cPHA cRA cRHA cSA cSHA cSSA cTA cTHA cTTA cTTHA cU cUU cVEDIC_ dANUSVARA cVOCALIC_ dL dLL",
    "dR dRR cWA cYA bOM bPLACEHOLDER_ cMARK bSANDHI_ cMARK bSIDDHI bSIGN_ cANUSVARA cAVAGRAHA",
    "cCANDRABINDU cFINAL_ dANUSVARA cJIHVAMULIYA cNUKTA cUPADHMANIYA cVIRAMA cVISARGA bVOWEL_",
    "cSIGN_ dAA dAI dAU dE dI dII dO dU dUU dVOCALIC_ eL eLL eR eRR aNEWLINE_ bLEFT bRIGHT",
    "aNEWSPAPER aNEW_ bLINE bMOON_ cSYMBOL cWITH_ dFACE bSHEQEL_ cSIGN bTAI_ cLUE_ dDIGIT_",
    "eEIGHT eFIVE eFOUR eNINE eONE eSEVEN eSIX eTHREE eTWO eZERO dLETTER_ eFINAL_ fB fD fK fM fN",
    "fNG fV eHIGH_ fBA fDA fFA fHA fKA fKVA fLA fMA fNA fNGA fPA fPHA fQA fSA fSUA fTA fTHA fTSA",
    "fVA fXA fXVA fYA eLOW_ fBA fDA fFA fHA fKA fKVA fLA fMA fNA fNGA fPA fPHA fQA fSA fSUA fTA",
    "fTHA fTSA fVA fXA fXVA fYA dSIGN_ eLAE eLAEV dTHAM_ eDIGIT_ fONE dTONE_ eMARK- f1 f2",
    "dVOWEL_ eSIGN_ fAA fAAY fAE fAY fE fII fIY fO fOA fOAY fOY fU fUE fUEY fUU fUY fVOWEL_",
    "gSHORTENER aNEXT_ bLINE bPAGE aNIGHT_ bWITH_ cSTARS aNINJA aNKO_ bCOMBINING_ cDOUBLE_ dDOT_",
    "eABOVE cLONG_ dDESCENDING_ eTONE dHIGH_ eTONE dLOW_ eTONE dRISING_ eTONE cNASALIZATION_",
    "dMARK cSHORT_ dHIGH_ eTONE dLOW_ eTONE dRISING_ eTONE bCOMMA bDANTAYALAN bDIGIT_ cEIGHT",
    "cFIVE cFOUR cNINE cONE cSEVEN cSIX cTHREE cTWO cZERO bDOROME_ cSIGN bEXCLAMATION_ cMARK",
    "bHIGH_ cTONE_ dAPOSTROPHE bLAJANYALAN bLETTER_ cA cBA cCHA cDA cDAGBASINNA cE cEE cFA cGBA",
    "cHA cI cJA cJONA_ dCHA dJA dRA cKA cLA cMA cN cNA cNA_ dWOLOSO cNYA cNYA_ dWOLOSO cO cOO",
    "cPA cRA cRRA cSA cTA cU cWA cYA bLOW_ cTONE_ dAPOSTROPHE bSYMBOL_ cGBAKURUNEN cOO_ dDENNEN",
    "bTAMAN_ cSIGN aNL aNNBSP aNO- bBREAK_ cSPACE aNOMINAL_ bDIGIT_ cSHAPES aNOMISMA_ bSIGN",
    "aNON- bBREAKING_ cHYPHEN bPOTABLE_ cWATER_ dSYMBOL aNONFORKING aNOR aNORDIC_ bMARK_ cSIGN",
    "aNORMAL_ bSUBGROUP_ cOF cOF_ dOR_ eEQUAL_ fTO aNORTHEAST- bPOINTING_ cAIRPLANE aNORTH_",
    "bEAST_ cAND_ dSOUTH_ eWEST_ fARROW cARROW cARROW_ dAND_ eSOUTH_ fEAST_ gARROW dCROSSING_",
    "eNORTH_ fWEST_ gARROW eSOUTH_ fEAST_ gARROW dWITH_ eHOOK cBLACK_ dARROW cDOUBLE_ dARROW",
    "cPOINTING_ dBUD dLEAF dVINE_ eLEAF cSANS- dSERIF_ eARROW cTRIANGLE- dHEADED_ eARROW eARROW_",
    "fTO_ gBAR cWHITE_ dARROW bINDIC_ cFRACTION_ dONE_ eEIGHTH eHALF eQUARTER eSIXTEENTH dTHREE_",
    "eQUARTERS eSIXTEENTHS cPLACEHOLDER_ dMARK cQUANTITY_ dMARK cQUARTER_ dMARK cRUPEE_ dMARK",
    "bWEST_ cAND_ dSOUTH_ eEAST_ fARROW cARROW cARROW_ dAND_ eNORTH_ fEAST_ gARROW dCROSSING_",
    "eNORTH_ fEAST_ gARROW dTO_ eCORNER eLONG_ fBAR dWITH_ eHOOK cBLACK_ dARROW cDOUBLE_ dARROW",
    "cPOINTING_ dBUD dLEAF dVINE_ eLEAF cSANS- dSERIF_ eARROW cTRIANGLE- dHEADED_ eARROW eARROW_",
    "fTO_ gBAR cWHITE_ dARROW aNOSE aNOTCHED_ bLEFT_ cSEMICIRCLE_ dWITH_ eTHREE_ fDOTS bLOWER_",
    "cRIGHT- dSHADOWED_ eWHITE_ fRIGHTWARDS_ gARROW bRIGHT_ cSEMICIRCLE_ dWITH_ eTHREE_ fDOTS",
    "bUPPER_ cRIGHT- dSHADOWED_ eWHITE_ fRIGHTWARDS_ gARROW aNOTE aNOTEBOOK aNOTEBOOK_ bWITH_",
    "cDECORATIVE_ dCOVER aNOTE_ bPAD bPAGE aNOT_ bALMOST_ cEQUAL_ dTO bAN_ cELEMENT_ dOF",
    "bASYMPTOTICALLY_ cEQUAL_ dTO bA_ cSUBSET_ dOF cSUPERSET_ dOF bCHECK_ cMARK bEQUAL_ cTO",
    "bEQUIVALENT_ cTO bGREATER- cTHAN bIDENTICAL_ cTO bLESS- cTHAN bNORMAL_ cSUBGROUP_ dOF dOF_",
    "eOR_ fEQUAL_ gTO bPARALLEL_ cTO bSIGN bSQUARE_ cIMAGE_ dOF_ eOR_ fEQUAL_ gTO cORIGINAL_",
    "dOF_ eOR_ fEQUAL_ gTO bTILDE bTRUE aNO_ bBICYCLES bBREAK_ cHERE bENTRY bENTRY_ cSIGN",
    "bMOBILE_ cPHONES bONE_ cUNDER_ dEIGHTEEN_ eSYMBOL bPEDESTRIANS bPIRACY bSMOKING_ cSYMBOL",
    "aNUL aNULL aNUMBER_ bEIGHTEEN_ cFULL_ dSTOP bELEVEN_ cFULL_ dSTOP bFIFTEEN_ cFULL_ dSTOP",
    "bFOURTEEN_ cFULL_ dSTOP bNINETEEN_ cFULL_ dSTOP bSEVENTEEN_ cFULL_ dSTOP bSIGN bSIXTEEN_",
    "cFULL_ dSTOP bTEN_ cFULL_ dSTOP bTHIRTEEN_ cFULL_ dSTOP bTWELVE_ cFULL_ dSTOP bTWENTY_",
    "cFULL_ dSTOP aNUMERO_ bSIGN aNUSHU_ bCHARACTER- c1B170 c1B171 c1B172 c1B173 c1B174 c1B175",
    "c1B176 c1B177 c1B178 c1B179 c1B17A c1B17B c1B17C c1B17D c1B17E c1B17F c1B180 c1B181 c1B182",
    "c1B183 c1B184 c1B185 c1B186 c1B187 c1B188 c1B189 c1B18A c1B18B c1B18C c1B18D c1B18E c1B18F",
    "c1B190 c1B191 c1B192 c1B193 c1B194 c1B195 c1B196 c1B197 c1B198 c1B199 c1B19A c1B19B c1B19C",
    "c1B19D c1B19E c1B19F c1B1A0 c1B1A1 c1B1A2 c1B1A3 c1B1A4 c1B1A5 c1B1A6 c1B1A7 c1B1A8 c1B1A9",
    "c1B1AA c1B1AB c1B1AC c1B1AD c1B1AE c1B1AF c1B1B0 c1B1B1 c1B1B2 c1B1B3 c1B1B4 c1B1B5 c1B1B6",
    "c1B1B7 c1B1B8 c1B1B9 c1B1BA c1B1BB c1B1BC c1B1BD c1B1BE c1B1BF c1B1C0 c1B1C1 c1B1C2 c1B1C3",
    "c1B1C4 c1B1C5 c1B1C6 c1B1C7 c1B1C8 c1B1C9 c1B1CA c1B1CB c1B1CC c1B1CD c1B1CE c1B1CF c1B1D0",
    "c1B1D1 c1B1D2 c1B1D3 c1B1D4 c1B1D5 c1B1D6 c1B1D7 c1B1D8 c1B1D9 c1B1DA c1B1DB c1B1DC c1B1DD",
    "c1B1DE c1B1DF c1B1E0 c1B1E1 c1B1E2 c1B1E3 c1B1E4 c1B1E5 c1B1E6 c1B1E7 c1B1E8 c1B1E9 c1B1EA",
    "c1B1EB c1B1EC c1B1ED c1B1EE c1B1EF c1B1F0 c1B1F1 c1B1F2 c1B1F3 c1B1F4 c1B1F5 c1B1F6 c1B1F7",
    "c1B1F8 c1B1F9 c1B1FA c1B1FB c1B1FC c1B1FD c1B1FE c1B1FF c1B200 c1B201 c1B202 c1B203 c1B204",
    "c1B205 c1B206 c1B207 c1B208 c1B209 c1B20A c1B20B c1B20C c1B20D c1B20E c1B20F c1B210 c1B211",
    "c1B212 c1B213 c1B214 c1B215 c1B216 c1B217 c1B218 c1B219 c1B21A c1B21B c1B21C c1B21D c1B21E",
    "c1B21F c1B220 c1B221 c1B222 c1B223 c1B224 c1B225 c1B226 c1B227 c1B228 c1B229 c1B22A c1B22B",
    "c1B22C c1B22D c1B22E c1B22F c1B230 c1B231 c1B232 c1B233 c1B234 c1B235 c1B236 c1B237 c1B238",
    "c1B239 c1B23A c1B23B c1B23C c1B23D c1B23E c1B23F c1B240 c1B241 c1B242 c1B243 c1B244 c1B245",
    "c1B246 c1B247 c1B248 c1B249 c1B24A c1B24B c1B24C c1B24D c1B24E c1B24F c1B250 c1B251 c1B252",
    "c1B253 c1B254 c1B255 c1B256 c1B257 c1B258 c1B259 c1B25A c1B25B c1B25C c1B25D c1B25E c1B25F",
    "c1B260 c1B261 c1B262 c1B263 c1B264 c1B265 c1B266 c1B267 c1B268 c1B269 c1B26A c1B26B c1B26C",
    "c1B26D c1B26E c1B26F c1B270 c1B271 c1B272 c1B273 c1B274 c1B275 c1B276 c1B277 c1B278 c1B279",
    "c1B27A c1B27B c1B27C c1B27D c1B27E c1B27F c1B280 c1B281 c1B282 c1B283 c1B284 c1B285 c1B286",
    "c1B287 c1B288 c1B289 c1B28A c1B28B c1B28C c1B28D c1B28E c1B28F c1B290 c1B291 c1B292 c1B293",
    "c1B294 c1B295 c1B296 c1B297 c1B298 c1B299 c1B29A c1B29B c1B29C c1B29D c1B29E c1B29F c1B2A0",
    "c1B2A1 c1B2A2 c1B2A3 c1B2A4 c1B2A5 c1B2A6 c1B2A7 c1B2A8 c1B2A9 c1B2AA c1B2AB c1B2AC c1B2AD",
    "c1B2AE c1B2AF c1B2B0 c1B2B1 c1B2B2 c1B2B3 c1B2B4 c1B2B5 c1B2B6 c1B2B7 c1B2B8 c1B2B9 c1B2BA",
    "c1B2BB c1B2BC c1B2BD c1B2BE c1B2BF c1B2C0 c1B2C1 c1B2C2 c1B2C3 c1B2C4 c1B2C5 c1B2C6 c1B2C7",
    "c1B2C8 c1B2C9 c1B2CA c1B2CB c1B2CC c1B2CD c1B2CE c1B2CF c1B2D0 c1B2D1 c1B2D2 c1B2D3 c1B2D4",
    "c1B2D5 c1B2D6 c1B2D7 c1B2D8 c1B2D9 c1B2DA c1B2DB c1B2DC c1B2DD c1B2DE c1B2DF c1B2E0 c1B2E1",
    "c1B2E2 c1B2E3 c1B2E4 c1B2E5 c1B2E6 c1B2E7 c1B2E8 c1B2E9 c1B2EA c1B2EB c1B2EC c1B2ED c1B2EE",
    "c1B2EF c1B2F0 c1B2F1 c1B2F2 c1B2F3 c1B2F4 c1B2F5 c1B2F6 c1B2F7 c1B2F8 c1B2F9 c1B2FA c1B2FB",
    "bITERATION_ cMARK aNUT_ bAND_ cBOLT aNYIAKENG_ bPUACHUE_ cHMONG_ dCIRCLED_ eCA dDIGIT_",
    "eEIGHT eFIVE eFOUR eNINE eONE eSEVEN eSIX eTHREE eTWO eZERO dLETTER_ eA eAA eCA eDA eDLA eE",
    "eEE eFA eGA eHA eHAH eI eKA eLA eMA eMLA eNA eNCA eNKA eNPA eNPLA eNQA eNRA eNTA eNTSA",
    "eNTXA eNYA eO eOO ePA ePLA eQA eRA eRRA eSA eTA eTSA eTXA eU eVA eW eXA eXYA eYA eZA",
    "dLOGOGRAM_ eNYAJ dSIGN_ eFOR_ fANIMAL fINVERTEBRATE fLOCATION fPERSON fTHING eXW_ fXW",
    "dSYLLABLE_ eLENGTHENER dTONE- eB eD eG eJ eM eS eV"]

end GoMetrics.Text.CharName
