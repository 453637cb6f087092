/-!
Names of characters that begin with the letters H to K, as a tree of their words (Unicode 14).
-/

namespace GoMetrics.Text.CharName

def namesHToK : List String :=
  ["aHADES aHAIRCUT aHAIR_ bSPACE aHALFWIDTH_ bBLACK_ cSQUARE bDOWNWARDS_ cARROW bFORMS_",
    "cLIGHT_ dVERTICAL bHANGUL_ cFILLER cLETTER_ dA dAE dCHIEUCH dCIEUC dE dEO dEU dHIEUH dI",
    "dIEUNG dKHIEUKH dKIYEOK dKIYEOK- eSIOS dMIEUM dNIEUN dNIEUN- eCIEUC eHIEUH dO dOE dPHIEUPH",
    "dPIEUP dPIEUP- eSIOS dRIEUL dRIEUL- eHIEUH eKIYEOK eMIEUM ePHIEUPH ePIEUP eSIOS eTHIEUTH",
    "dSIOS dSSANGCIEUC dSSANGKIYEOK dSSANGPIEUP dSSANGSIOS dSSANGTIKEUT dTHIEUTH dTIKEUT dU dWA",
    "dWAE dWE dWEO dWI dYA dYAE dYE dYEO dYI dYO dYU bIDEOGRAPHIC_ cCOMMA cFULL_ dSTOP",
    "bKATAKANA- cHIRAGANA_ dPROLONGED_ eSOUND_ fMARK bKATAKANA_ cLETTER_ dA dE dHA dHE dHI dHO",
    "dHU dI dKA dKE dKI dKO dKU dMA dME dMI dMO dMU dN dNA dNE dNI dNO dNU dO dRA dRE dRI dRO",
    "dRU dSA dSE dSI dSMALL_ eA eE eI eO eTU eU eYA eYO eYU dSO dSU dTA dTE dTI dTO dTU dU dWA",
    "dWO dYA dYO dYU cMIDDLE_ dDOT cSEMI- dVOICED_ eSOUND_ fMARK cVOICED_ dSOUND_ eMARK",
    "bLEFTWARDS_ cARROW bLEFT_ cCORNER_ dBRACKET bRIGHTWARDS_ cARROW bRIGHT_ cCORNER_ dBRACKET",
    "bUPWARDS_ cARROW bWHITE_ cCIRCLE aHAMBURGER aHAMMER aHAMMER_ bAND_ cPICK cSICKLE cWRENCH",
    "aHAMSA aHAMSTER_ bFACE aHANDBAG aHANDBALL aHANDSHAKE aHAND_ bWITH_ cINDEX_ dAND_ eMIDDLE_",
    "fFINGERS_ gCROSSED dFINGER_ eAND_ fTHUMB_ gCROSSED aHANGUL_ bCHOSEONG_ cCEONGCHIEUMCHIEUCH",
    "cCEONGCHIEUMCIEUC cCEONGCHIEUMSIOS cCEONGCHIEUMSSANGCIEUC cCEONGCHIEUMSSANGSIOS cCHIEUCH",
    "cCHIEUCH- dHIEUH dKHIEUKH cCHITUEUMCHIEUCH cCHITUEUMCIEUC cCHITUEUMSIOS cCHITUEUMSSANGCIEUC",
    "cCHITUEUMSSANGSIOS cCIEUC cCIEUC- dIEUNG cFILLER cHIEUH cHIEUH- dSIOS cIEUNG cIEUNG-",
    "dCHIEUCH dCIEUC dHIEUH dKIYEOK dMIEUM dPANSIOS dPHIEUPH dPIEUP dRIEUL dSIOS dTHIEUTH",
    "dTIKEUT cKAPYEOUNMIEUM cKAPYEOUNPHIEUPH cKAPYEOUNPIEUP cKAPYEOUNRIEUL cKAPYEOUNSSANGPIEUP",
    "cKHIEUKH cKIYEOK cKIYEOK- dTIKEUT cMIEUM cMIEUM- dKIYEOK dPIEUP dSIOS dTIKEUT cNIEUN",
    "cNIEUN- dCIEUC dHIEUH dKIYEOK dPIEUP dSIOS dTIKEUT cPANSIOS cPHIEUPH cPHIEUPH- dHIEUH",
    "dPIEUP cPIEUP cPIEUP- dCHIEUCH dCIEUC dHIEUH dKHIEUKH dKIYEOK dNIEUN dPHIEUPH dSIOS dSIOS-",
    "eCIEUC eKIYEOK ePIEUP eTHIEUTH eTIKEUT dSSANGSIOS dTHIEUTH dTIKEUT cRIEUL cRIEUL- dCIEUC",
    "dHIEUH dKAPYEOUNPIEUP dKHIEUKH dKIYEOK dMIEUM dNIEUN dPIEUP dSIOS dSSANGKIYEOK dSSANGPIEUP",
    "dSSANGTIKEUT dTIKEUT cSIOS cSIOS- dCHIEUCH dCIEUC dHIEUH dIEUNG dKHIEUKH dKIYEOK dMIEUM",
    "dNIEUN dPHIEUPH dPIEUP dPIEUP- eKIYEOK dRIEUL dSSANGSIOS dTHIEUTH dTIKEUT cSSANGCIEUC",
    "cSSANGCIEUC- dHIEUH cSSANGHIEUH cSSANGIEUNG cSSANGKIYEOK cSSANGNIEUN cSSANGPIEUP",
    "cSSANGRIEUL cSSANGSIOS cSSANGSIOS- dPIEUP cSSANGTHIEUTH cSSANGTIKEUT cSSANGYEORINHIEUH",
    "cTHIEUTH cTIKEUT cTIKEUT- dCIEUC dKIYEOK dMIEUM dPIEUP dRIEUL dSIOS cYEORINHIEUH cYESIEUNG",
    "bDOUBLE_ cDOT_ dTONE_ eMARK bFILLER bJONGSEONG_ cCHIEUCH cCIEUC cCIEUC- dPIEUP dSSANGPIEUP",
    "cHIEUH cHIEUH- dMIEUM dNIEUN dPIEUP dRIEUL cIEUNG cIEUNG- dKHIEUKH dKIYEOK dSSANGKIYEOK",
    "cKAPYEOUNMIEUM cKAPYEOUNPHIEUPH cKAPYEOUNPIEUP cKAPYEOUNRIEUL cKHIEUKH cKIYEOK cKIYEOK-",
    "dCHIEUCH dHIEUH dKHIEUKH dNIEUN dPIEUP dRIEUL dSIOS dSIOS- eKIYEOK cMIEUM cMIEUM- dCHIEUCH",
    "dCIEUC dHIEUH dKIYEOK dNIEUN dPANSIOS dPIEUP dPIEUP- eSIOS dRIEUL dSIOS dSSANGNIEUN",
    "dSSANGSIOS cNIEUN cNIEUN- dCHIEUCH dCIEUC dHIEUH dKIYEOK dPANSIOS dRIEUL dSIOS dTHIEUTH",
    "dTIKEUT cPANSIOS cPANSIOS- dKAPYEOUNPIEUP dPIEUP cPHIEUPH cPHIEUPH- dPIEUP dSIOS dTHIEUTH",
    "cPIEUP cPIEUP- dCHIEUCH dCIEUC dHIEUH dMIEUM dPHIEUPH dRIEUL dRIEUL- ePHIEUPH dSIOS dSIOS-",
    "eTIKEUT dTIKEUT cRIEUL cRIEUL- dHIEUH dKAPYEOUNPIEUP dKHIEUKH dKIYEOK dKIYEOK- eHIEUH eSIOS",
    "dMIEUM dMIEUM- eHIEUH eKIYEOK eSIOS dNIEUN dPANSIOS dPHIEUPH dPIEUP dPIEUP- eHIEUH ePHIEUPH",
    "eSIOS eTIKEUT dSIOS dSSANGKIYEOK dSSANGSIOS dTHIEUTH dTIKEUT dTIKEUT- eHIEUH dYEORINHIEUH",
    "dYEORINHIEUH- eHIEUH dYESIEUNG cSIOS cSIOS- dCHIEUCH dCIEUC dHIEUH dKAPYEOUNPIEUP dKIYEOK",
    "dMIEUM dPANSIOS dPIEUP dRIEUL dTHIEUTH dTIKEUT cSSANGCIEUC cSSANGIEUNG cSSANGKIYEOK",
    "cSSANGMIEUM cSSANGNIEUN cSSANGPIEUP cSSANGRIEUL cSSANGRIEUL- dKHIEUKH cSSANGSIOS",
    "cSSANGSIOS- dKIYEOK dTIKEUT cSSANGTIKEUT cSSANGTIKEUT- dPIEUP cSSANGYESIEUNG cTHIEUTH",
    "cTIKEUT cTIKEUT- dCHIEUCH dCIEUC dKIYEOK dPIEUP dRIEUL dSIOS dSIOS- eKIYEOK dTHIEUTH",
    "cYEORINHIEUH cYESIEUNG cYESIEUNG- dHIEUH dKHIEUKH dKIYEOK dMIEUM dPANSIOS dSIOS",
    "dSSANGKIYEOK bJUNGSEONG_ cA cA- dEU dO dU cAE cARAEA cARAEA- dA dE dEO dI dU cE cEO cEO-",
    "dEU dO dU cEU cEU- dA dE dEO dEU dO dU cFILLER cI cI- dA dARAEA dEU dI dO dO- eI dU dYA",
    "dYA- eO dYAE dYE dYEO dYO dYU cO cO- dE dEO dO dO- eI dU dYA dYAE dYE dYEO cOE cSSANGARAEA",
    "cU cU- dA dAE dEO- eEU dI- eI dU dYE dYEO cWA cWAE cWE cWEO cWI cYA cYA- dO dU dYO cYAE cYE",
    "cYEO cYEO- dO dU dYA cYI cYI- dU cYO cYO- dA dAE dEO dI dO dYA dYAE dYEO cYU cYU- dA dAE dE",
    "dEO dI dO dU dYE dYEO bLETTER_ cA cAE cARAEA cARAEAE cCHIEUCH cCIEUC cE cEO cEU cHIEUH cI",
    "cIEUNG cKAPYEOUNMIEUM cKAPYEOUNPHIEUPH cKAPYEOUNPIEUP cKAPYEOUNSSANGPIEUP cKHIEUKH cKIYEOK",
    "cKIYEOK- dSIOS cMIEUM cMIEUM- dPANSIOS dPIEUP dSIOS cNIEUN cNIEUN- dCIEUC dHIEUH dPANSIOS",
    "dSIOS dTIKEUT cO cOE cPANSIOS cPHIEUPH cPIEUP cPIEUP- dCIEUC dKIYEOK dSIOS dSIOS- eKIYEOK",
    "eTIKEUT dTHIEUTH dTIKEUT cRIEUL cRIEUL- dHIEUH dKIYEOK dKIYEOK- eSIOS dMIEUM dPANSIOS",
    "dPHIEUPH dPIEUP dPIEUP- eSIOS dSIOS dTHIEUTH dTIKEUT dYEORINHIEUH cSIOS cSIOS- dCIEUC",
    "dKIYEOK dNIEUN dPIEUP dTIKEUT cSSANGCIEUC cSSANGHIEUH cSSANGIEUNG cSSANGKIYEOK cSSANGNIEUN",
    "cSSANGPIEUP cSSANGSIOS cSSANGTIKEUT cTHIEUTH cTIKEUT cU cWA cWAE cWE cWEO cWI cYA cYAE cYE",
    "cYEO cYEORINHIEUH cYESIEUNG cYESIEUNG- dPANSIOS dSIOS cYI cYO cYO- dI dYA dYAE cYU cYU- dI",
    "dYE dYEO bSINGLE_ cDOT_ dTONE_ eMARK aHANGZHOU_ bNUMERAL_ cEIGHT cFIVE cFOUR cNINE cONE",
    "cSEVEN cSIX cTEN cTHIRTY cTHREE cTWENTY cTWO aHANIFI_ bROHINGYA_ cDIGIT_ dEIGHT dFIVE dFOUR",
    "dNINE dONE dSEVEN dSIX dTHREE dTWO dZERO cLETTER_ dA dBA dCA dDA dDDA dFA dGA dHA dJA dKA",
    "dKHA dKINNA_ eWA eYA dLA dMA dNA dNGA dNYA dPA dRA dRRA dSA dSHA dTA dTTA dVA dWA dYA dZA",
    "cMARK_ dNA_ eKHONNA dSAKIN cSIGN_ dHARBAHAY dTAHALA dTANA dTASSI cVOWEL_ dA dE dI dO dU",
    "aHANUNOO_ bLETTER_ cA cBA cDA cGA cHA cI cKA cLA cMA cNA cNGA cPA cRA cSA cTA cU cWA cYA",
    "bSIGN_ cPAMUDPOD bVOWEL_ cSIGN_ dI dU aHAPPY_ bPERSON_ cRAISING_ dONE_ eHAND aHARD_ bDISK",
    "aHATCHING_ bCHICK aHATRAN_ bLETTER_ cALEPH cAYN cBETH cDALETH- dRESH cGIMEL cHE cHETH cKAPH",
    "cLAMEDH cMEM cNUN cPE cQOPH cSADHE cSAMEKH cSHIN cTAW cTETH cWAW cYODH cZAYN bNUMBER_ cFIVE",
    "cONE cONE_ dHUNDRED cTEN cTWENTY aHEADPHONE aHEADSTONE aHEADSTONE_ bGRAVEYARD_ cSYMBOL",
    "aHEAR- bNO- cEVIL_ dMONKEY aHEART_ bDECORATION bHANDS bWITH_ cARROW cRIBBON cTIP_ dON_",
    "eTHE_ fLEFT aHEAVY_ bAMPERSAND_ cORNAMENT bARROW_ cSHAFT_ dWIDTH_ eONE eONE_ fHALF fTHIRD",
    "eTWO_ fTHIRDS bASTERISK bBALLOT_ cX bBLACK- cFEATHERED_ dNORTH_ eEAST_ fARROW dRIGHTWARDS_",
    "eARROW dSOUTH_ eEAST_ fARROW bBLACK_ cCURVED_ dDOWNWARDS_ eAND_ fRIGHTWARDS_ gARROW",
    "dUPWARDS_ eAND_ fRIGHTWARDS_ gARROW cHEART bCHECK_ cMARK bCHEVRON_ cSNOWFLAKE bCIRCLE",
    "bCIRCLED_ cSALTIRE bCIRCLE_ cWITH_ dCIRCLE_ eINSIDE dSTROKE_ eAND_ fTWO_ gDOTS_ hABOVE",
    "bCONCAVE- cPOINTED_ dBLACK_ eRIGHTWARDS_ fARROW bDASHED_ cTRIANGLE- dHEADED_ eRIGHTWARDS_",
    "fARROW bDIVISION_ cSIGN bDOLLAR_ cSIGN bDOUBLE_ cCOMMA_ dQUOTATION_ eMARK_ fORNAMENT",
    "cTURNED_ dCOMMA_ eQUOTATION_ fMARK_ gORNAMENT bDOWNWARDS_ cARROW_ dWITH_ eEQUILATERAL_",
    "fARROWHEAD eLARGE_ fEQUILATERAL_ gARROWHEAD bEIGHT_ cPOINTED_ dBLACK_ eSTAR dPINWHEEL_",
    "eSTAR dRECTILINEAR_ eBLACK_ fSTAR cSPOKED_ dASTERISK cTEARDROP- dSPOKED_ ePROPELLER_",
    "fASTERISK bEQUALS_ cSIGN bEXCLAMATION_ cMARK_ dORNAMENT dSYMBOL bFIVE_ cPOINTED_ dBLACK_",
    "eSTAR cSPOKED_ dASTERISK bFOUR_ cBALLOON- dSPOKED_ eASTERISK bGREEK_ cCROSS bHEART_",
    "cEXCLAMATION_ dMARK_ eORNAMENT bHORIZONTAL_ cFILL bINTERROBANG_ cORNAMENT bLARGE_ cCIRCLE",
    "bLATIN_ cCROSS bLEFT- cPOINTING_ dANGLE_ eBRACKET_ fORNAMENT eQUOTATION_ fMARK_ gORNAMENT",
    "bLEFTWARDS_ cARROW_ dWITH_ eEQUILATERAL_ fARROWHEAD eLARGE_ fEQUILATERAL_ gARROWHEAD",
    "bLIGATURE_ cOPEN_ dET_ eORNAMENT bLOWER_ cRIGHT- dSHADOWED_ eWHITE_ fRIGHTWARDS_ gARROW",
    "bLOW_ cDOUBLE_ dCOMMA_ eQUOTATION_ fMARK_ gORNAMENT cSINGLE_ dCOMMA_ eQUOTATION_ fMARK_",
    "gORNAMENT bMINUS_ cSIGN bMULTIPLICATION_ cX bNORTH_ cEAST_ dARROW dPOINTING_ eBUD eVINE_",
    "fLEAF cWEST_ dPOINTING_ eBUD eVINE_ fLEAF bOPEN_ cCENTRE_ dCROSS bOUTLINED_ cBLACK_ dSTAR",
    "bOVAL_ cWITH_ dOVAL_ eINSIDE bPLUS_ cSIGN bRIGHT- cPOINTING_ dANGLE_ eBRACKET_ fORNAMENT",
    "eQUOTATION_ fMARK_ gORNAMENT bRIGHTWARDS_ cARROW cARROW_ dWITH_ eEQUILATERAL_ fARROWHEAD",
    "eLARGE_ fEQUILATERAL_ gARROWHEAD bROUND- cTIPPED_ dRIGHTWARDS_ eARROW bSALTIRE bSANS-",
    "cSERIF_ dINTERROBANG_ eORNAMENT bSCRIPT_ cLIGATURE_ dET_ eORNAMENT bSINGLE_ cCOMMA_",
    "dQUOTATION_ eMARK_ fORNAMENT cTURNED_ dCOMMA_ eQUOTATION_ fMARK_ gORNAMENT bSIX_ cPOINTED_",
    "dBLACK_ eSTAR cSPOKED_ dASTERISK bSOUTH_ cEAST_ dARROW dPOINTING_ eBUD eVINE_ fLEAF cWEST_",
    "dPOINTING_ eBUD eVINE_ fLEAF bSPARKLE bTEARDROP- cSHANKED_ dRIGHTWARDS_ eARROW cSPOKED_",
    "dASTERISK dPINWHEEL_ eASTERISK bTRIANGLE- cHEADED_ dRIGHTWARDS_ eARROW bTWELVE_ cPOINTED_",
    "dBLACK_ eSTAR dPINWHEEL_ eSTAR bUPPER_ cRIGHT- dSHADOWED_ eWHITE_ fRIGHTWARDS_ gARROW",
    "bUPWARDS_ cARROW_ dWITH_ eEQUILATERAL_ fARROWHEAD eLARGE_ fEQUILATERAL_ gARROWHEAD",
    "bVERTICAL_ cBAR bWEDGE- cTAILED_ dRIGHTWARDS_ eARROW bWHITE_ cCIRCLE cDOWN- dPOINTING_",
    "eTRIANGLE cSQUARE bWIDE- cHEADED_ dRIGHTWARDS_ eARROW aHEBREW_ bACCENT_ cATNAH_ dHAFUKH",
    "cDARGA cDEHI cETNAHTA cGERESH cGERESH_ dMUQDAM cGERSHAYIM cILUY cMAHAPAKH cMERKHA cMERKHA_",
    "dKEFULA cMUNAH cOLE cPASHTA cPAZER cQADMA cQARNEY_ dPARA cREVIA cSEGOL cSHALSHELET",
    "cTELISHA_ dGEDOLA dQETANA cTEVIR cTIPEHA cYERAH_ dBEN_ eYOMO cYETIV cZAQEF_ dGADOL dQATAN",
    "cZARQA cZINOR bLETTER_ cALEF cALEF_ dWITH_ eMAPIQ ePATAH eQAMATS cALTERNATIVE_ dAYIN dPLUS_",
    "eSIGN cAYIN cBET cBET_ dWITH_ eDAGESH eRAFE cDALET cDALET_ dWITH_ eDAGESH cFINAL_ dKAF",
    "dKAF_ eWITH_ fDAGESH dMEM dNUN dPE dPE_ eWITH_ fDAGESH dTSADI cGIMEL cGIMEL_ dWITH_ eDAGESH",
    "cHE cHET cHE_ dWITH_ eMAPIQ cKAF cKAF_ dWITH_ eDAGESH eRAFE cLAMED cLAMED_ dWITH_ eDAGESH",
    "cMEM cMEM_ dWITH_ eDAGESH cNUN cNUN_ dWITH_ eDAGESH cPE cPE_ dWITH_ eDAGESH eRAFE cQOF",
    "cQOF_ dWITH_ eDAGESH cRESH cRESH_ dWITH_ eDAGESH cSAMEKH cSAMEKH_ dWITH_ eDAGESH cSHIN",
    "cSHIN_ dWITH_ eDAGESH eDAGESH_ fAND_ gSHIN_ hDOT gSIN_ hDOT eSHIN_ fDOT eSIN_ fDOT cTAV",
    "cTAV_ dWITH_ eDAGESH cTET cTET_ dWITH_ eDAGESH cTSADI cTSADI_ dWITH_ eDAGESH cVAV cVAV_",
    "dWITH_ eDAGESH eHOLAM cWIDE_ dALEF dDALET dFINAL_ eMEM dHE dKAF dLAMED dRESH dTAV cYOD",
    "cYOD_ dWITH_ eDAGESH eHIRIQ cZAYIN cZAYIN_ dWITH_ eDAGESH bLIGATURE_ cALEF_ dLAMED",
    "cYIDDISH_ dDOUBLE_ eVAV eYOD dVAV_ eYOD dYOD_ eYOD_ fPATAH bMARK_ cLOWER_ dDOT cMASORA_",
    "dCIRCLE cUPPER_ dDOT bPOINT_ cDAGESH_ dOR_ eMAPIQ cHATAF_ dPATAH dQAMATS dSEGOL cHIRIQ",
    "cHOLAM cHOLAM_ dHASER_ eFOR_ fVAV cJUDEO- dSPANISH_ eVARIKA cMETEG cPATAH cQAMATS cQAMATS_",
    "dQATAN cQUBUTS cRAFE cSEGOL cSHEVA cSHIN_ dDOT cSIN_ dDOT cTSERE bPUNCTUATION_ cGERESH",
    "cGERSHAYIM cMAQAF cNUN_ dHAFUKHA cPASEQ cSOF_ dPASUQ bYOD_ cTRIANGLE aHEDGEHOG aHELICOPTER",
    "aHELLSCHREIBER_ bPAUSE_ cSYMBOL aHELMET_ bWITH_ cWHITE_ dCROSS aHELM_ bSYMBOL aHENTAIGANA_",
    "bLETTER_ cA- d1 d2 d3 dWO cE- d1 d2 d3 d4 d5 d6 cHA- d1 d10 d11 d2 d3 d4 d5 d6 d7 d8 d9",
    "cHE- d1 d2 d3 d4 d5 d6 d7 cHI- d1 d2 d3 d4 d5 d6 d7 cHO- d1 d2 d3 d4 d5 d6 d7 d8 cHU- d1 d2",
    "d3 cI- d1 d2 d3 d4 cKA- d1 d10 d11 d2 d3 d4 d5 d6 d7 d8 d9 dKE cKE- d1 d2 d3 d4 d5 d6 cKI-",
    "d1 d2 d3 d4 d5 d6 d7 d8 cKO- d1 d2 d3 dKI cKU- d1 d2 d3 d4 d5 d6 d7 cMA- d1 d2 d3 d4 d5 d6",
    "d7 cME- d1 d2 dMA cMI- d1 d2 d3 d4 d5 d6 d7 cMO- d1 d2 d3 d4 d5 d6 cMU- d1 d2 d3 d4 cN-",
    "dMU- eMO- f1 f2 cNA- d1 d2 d3 d4 d5 d6 d7 d8 d9 cNE- d1 d2 d3 d4 d5 d6 dKO cNI- d1 d2 d3 d4",
    "d5 d6 d7 dTE cNO- d1 d2 d3 d4 d5 cNU- d1 d2 d3 cO- d1 d2 d3 cRA- d1 d2 d3 d4 cRE- d1 d2 d3",
    "d4 cRI- d1 d2 d3 d4 d5 d6 d7 cRO- d1 d2 d3 d4 d5 d6 cRU- d1 d2 d3 d4 d5 d6 cSA- d1 d2 d3 d4",
    "d5 d6 d7 d8 cSE- d1 d2 d3 d4 d5 cSI- d1 d2 d3 d4 d5 d6 cSO- d1 d2 d3 d4 d5 d6 d7 cSU- d1 d2",
    "d3 d4 d5 d6 d7 d8 cTA- d1 d2 d3 d4 cTE- d1 d2 d3 d4 d5 d6 d7 d8 d9 cTI- d1 d2 d3 d4 d5 d6",
    "d7 cTO- d1 d2 d3 d4 d5 d6 dRA cTU- d1 d2 d3 d4 dTO cU- d1 d2 d3 d4 d5 cWA- d1 d2 d3 d4 d5",
    "cWE- d1 d2 d3 d4 cWI- d1 d2 d3 d4 d5 cWO- d1 d2 d3 d4 d5 d6 d7 cYA- d1 d2 d3 d4 d5 dYO cYO-",
    "d1 d2 d3 d4 d5 d6 cYU- d1 d2 d3 d4 aHERB aHERMITIAN_ bCONJUGATE_ cMATRIX aHEXAGRAM_ bFOR_",
    "cABUNDANCE cAFTER_ dCOMPLETION cAPPROACH cBEFORE_ dCOMPLETION cBITING_ dTHROUGH",
    "cBREAKTHROUGH cCOMING_ dTO_ eMEET cCONFLICT cCONTEMPLATION cDARKENING_ dOF_ eTHE_ fLIGHT",
    "cDECREASE cDELIVERANCE cDEVELOPMENT cDIFFICULTY_ dAT_ eTHE_ fBEGINNING cDISPERSION",
    "cDURATION cENTHUSIASM cFELLOWSHIP cFOLLOWING cGATHERING_ dTOGETHER cGRACE cGREAT_",
    "dPOSSESSION dPOWER dPREPONDERANCE dTAMING cHOLDING_ dTOGETHER cINCREASE cINFLUENCE cINNER_",
    "dTRUTH cINNOCENCE cLIMITATION cMODESTY cMOUTH_ dCORNERS cOBSTRUCTION cOPPOSITION",
    "cOPPRESSION cPEACE cPROGRESS cPUSHING_ dUPWARD cRETREAT cRETURN cREVOLUTION cSMALL_",
    "dPREPONDERANCE dTAMING cSPLITTING_ dAPART cSTANDSTILL cTHE_ dABYSMAL_ eWATER dARMY",
    "dAROUSING_ eTHUNDER dCAULDRON dCLINGING_ eFIRE dCREATIVE_ eHEAVEN dFAMILY dGENTLE_ eWIND",
    "dJOYOUS_ eLAKE dKEEPING_ eSTILL_ fMOUNTAIN dMARRYING_ eMAIDEN dRECEPTIVE_ eEARTH dWANDERER",
    "dWELL cTREADING cWAITING cWORK_ dON_ eTHE_ fDECAYED cYOUTHFUL_ dFOLLY aHIBISCUS aHIGH-",
    "bHEELED_ cSHOE bSPEED_ cTRAIN cTRAIN_ dWITH_ eBULLET_ fNOSE aHIGH_ bBRIGHTNESS_ cSYMBOL",
    "bOCTET_ cPRESET bVOLTAGE_ cSIGN aHIKING_ bBOOT aHINDU_ bTEMPLE aHIPPOPOTAMUS aHIRAGANA_",
    "bDIGRAPH_ cYORI bITERATION_ cMARK bLETTER_ cA cARCHAIC_ dWU dYE cBA cBE cBI cBO cBU cDA cDE",
    "cDI cDO cDU cE cGA cGE cGI cGO cGU cHA cHE cHI cHO cHU cI cKA cKE cKI cKO cKU cMA cME cMI",
    "cMO cMU cN cNA cNE cNI cNO cNU cO cPA cPE cPI cPO cPU cRA cRE cRI cRO cRU cSA cSE cSI",
    "cSMALL_ dA dE dI dKA dKE dO dTU dU dWA dWE dWI dWO dYA dYO dYU cSO cSU cTA cTE cTI cTO cTU",
    "cU cVU cWA cWE cWI cWO cYA cYO cYU cZA cZE cZI cZO cZU bVOICED_ cITERATION_ dMARK",
    "aHISTORIC_ bSITE aHOCHO aHOLE aHOLLOW_ bQUILT_ cSQUARE_ dORNAMENT dORNAMENT_ eIN_ fBLACK_",
    "gSQUARE aHOMOTHETIC aHONEYBEE aHONEY_ bPOT aHOOK aHOP aHORIZONTAL_ bBAR bBLACK_ cHEXAGON",
    "cOCTAGON bELLIPSIS bLINE_ cEXTENSION bMALE_ cWITH_ dSTROKE_ eSIGN bONE_ cEIGHTH_ dBLOCK-",
    "e1358 e2 e3 e4 e5 e6 e7 bSCAN_ cLINE- d1 d3 d7 d9 bTABULATION bTABULATION_ cSET cWITH_",
    "dJUSTIFICATION bTAB_ cKEY bTRAFFIC_ cLIGHT aHORSE aHORSE_ bFACE bRACING aHOSPITAL aHOTEL",
    "aHOT_ bBEVERAGE bDOG bPEPPER bSPRINGS aHOURGLASS aHOURGLASS_ bWITH_ cFLOWING_ dSAND aHOUSE",
    "aHOUSE_ bBUILDING bBUILDINGS bWITH_ cGARDEN aHRYVNIA_ bSIGN aHT aHTJ aHTS aHUGGING_ bFACE",
    "aHUNDRED_ bPOINTS_ cSYMBOL aHUSHED_ bFACE aHUT aHYGIEA aHYPHEN aHYPHEN- bMINUS",
    "aHYPHENATION_ bPOINT aHYPHEN_ bBULLET bWITH_ cDIAERESIS aHYPODIASTOLE aHYSTERESIS_ bSYMBOL",
    "aICE_ bCREAM bCUBE bHOCKEY_ cSTICK_ dAND_ ePUCK bSKATE aIDENTICAL_ bTO bTO_ cAND_ dSLANTED_",
    "ePARALLEL bWITH_ cDOT_ dABOVE aIDENTIFICATION_ bCARD aIDEOGRAPHIC_ bANNOTATION_ cBOTTOM_",
    "dMARK cEARTH_ dMARK cFIRST_ dMARK cFOURTH_ dMARK cFOUR_ dMARK cHEAVEN_ dMARK cLINKING_",
    "dMARK cMAN_ dMARK cMIDDLE_ dMARK cONE_ dMARK cREVERSE_ dMARK cSECOND_ dMARK cTHIRD_ dMARK",
    "cTHREE_ dMARK cTOP_ dMARK cTWO_ dMARK bCLOSING_ cMARK bCOMMA bDEPARTING_ cTONE_ dMARK",
    "bDESCRIPTION_ cCHARACTER_ dABOVE_ eTO_ fBELOW fMIDDLE_ gAND_ hBELOW dFULL_ eSURROUND dLEFT_",
    "eTO_ fMIDDLE_ gAND_ hRIGHT fRIGHT dOVERLAID dSURROUND_ eFROM_ fABOVE fBELOW fLEFT fLOWER_",
    "gLEFT fUPPER_ gLEFT gRIGHT bENTERING_ cTONE_ dMARK bFULL_ cSTOP bHALF_ cFILL_ dSPACE",
    "bITERATION_ cMARK bLEVEL_ cTONE_ dMARK bNUMBER_ cZERO bRISING_ cTONE_ dMARK bSPACE bTALLY_",
    "cMARK_ dFIVE dFOUR dONE dTHREE dTWO bTELEGRAPH_ cLINE_ dFEED_ eSEPARATOR_ fSYMBOL cSYMBOL_",
    "dFOR_ eAPRIL eAUGUST eDAY_ fEIGHT fEIGHTEEN fELEVEN fFIFTEEN fFIVE fFOUR fFOURTEEN fNINE",
    "fNINETEEN fONE fSEVEN fSEVENTEEN fSIX fSIXTEEN fTEN fTHIRTEEN fTHIRTY fTHIRTY- gONE fTHREE",
    "fTWELVE fTWENTY fTWENTY- gEIGHT gFIVE gFOUR gNINE gONE gSEVEN gSIX gTHREE gTWO fTWO",
    "eDECEMBER eFEBRUARY eHOUR_ fEIGHT fEIGHTEEN fELEVEN fFIFTEEN fFIVE fFOUR fFOURTEEN fNINE",
    "fNINETEEN fONE fSEVEN fSEVENTEEN fSIX fSIXTEEN fTEN fTHIRTEEN fTHREE fTWELVE fTWENTY",
    "fTWENTY- gFOUR gONE gTHREE gTWO fTWO fZERO eJANUARY eJULY eJUNE eMARCH eMAY eNOVEMBER",
    "eOCTOBER eSEPTEMBER bVARIATION_ cINDICATOR aIMAGE_ bOF bOF_ cOR_ dAPPROXIMATELY_ eEQUAL_",
    "fTO aIMP aIMPERIAL_ bARAMAIC_ cLETTER_ dALEPH dAYIN dBETH dDALETH dGIMEL dHE dHETH dKAPH",
    "dLAMEDH dMEM dNUN dPE dQOPH dRESH dSADHE dSAMEKH dSHIN dTAW dTETH dWAW dYODH dZAYIN",
    "cNUMBER_ dONE dONE_ eHUNDRED eTHOUSAND dTEN dTEN_ eTHOUSAND dTHREE dTWENTY dTWO cSECTION_",
    "dSIGN aINBOX_ bTRAY aINCOMING_ bENVELOPE aINCOMPLETE_ bINFINITY aINCREASES_ bAS aINCREASE_",
    "bFONT_ cSIZE_ dSYMBOL aINCREMENT aIND aINDEX aINDEX_ bPOINTING_ cAT_ dTHE_ eVIEWER aINDIAN_",
    "bRUPEE_ cSIGN aINDIC_ bSIYAQ_ cALTERNATE_ dLAKH_ eMARK cFRACTION_ dONE_ eHALF eQUARTER",
    "dTHREE_ eQUARTERS cLAKH_ dMARK cNUMBER_ dALTERNATE_ eONE eTEN_ fTHOUSAND eTWO dEIGHT",
    "dEIGHTY dEIGHTY_ eTHOUSAND dEIGHT_ eHUNDRED eTHOUSAND dFIFTY dFIFTY_ eTHOUSAND dFIVE dFIVE_",
    "eHUNDRED eTHOUSAND dFORTY dFORTY_ eTHOUSAND dFOUR dFOUR_ eHUNDRED eTHOUSAND dKAROR dKARORAN",
    "dLAKH dLAKHAN dNINE dNINETY dNINETY_ eTHOUSAND dNINE_ eHUNDRED eTHOUSAND dONE dONE_",
    "eHUNDRED eTHOUSAND dPREFIXED_ eEIGHT eFIVE eFOUR eNINE eONE eSEVEN eSIX eTHREE eTWO dSEVEN",
    "dSEVENTY dSEVENTY_ eTHOUSAND dSEVEN_ eHUNDRED eTHOUSAND dSIX dSIXTY dSIXTY_ eTHOUSAND dSIX_",
    "eHUNDRED eTHOUSAND dTEN dTEN_ eTHOUSAND dTHIRTY dTHIRTY_ eTHOUSAND dTHREE dTHREE_ eHUNDRED",
    "eTHOUSAND dTWENTY dTWENTY_ eTHOUSAND dTWO dTWO_ eHUNDRED eTHOUSAND cPLACEHOLDER cRUPEE_",
    "dMARK aINFINITY aINFINITY_ bNEGATED_ cWITH_ dVERTICAL_ eBAR aINFORMATION_ bDESK_ cPERSON",
    "bSEPARATOR_ cFOUR cONE cTHREE cTWO bSOURCE aINHIBIT_ bARABIC_ cFORM_ dSHAPING bSYMMETRIC_",
    "cSWAPPING aINPUT_ bSYMBOL_ cFOR_ dLATIN_ eCAPITAL_ fLETTERS eLETTERS eSMALL_ fLETTERS",
    "dNUMBERS dSYMBOLS aINSCRIPTIONAL_ bPAHLAVI_ cLETTER_ dALEPH dBETH dDALETH dGIMEL dHE dHETH",
    "dKAPH dLAMEDH dMEM- eQOPH dNUN dPE dSADHE dSAMEKH dSHIN dTAW dTETH dWAW- eAYIN- fRESH dYODH",
    "dZAYIN cNUMBER_ dFOUR dONE dONE_ eHUNDRED eTHOUSAND dTEN dTHREE dTWENTY dTWO bPARTHIAN_",
    "cLETTER_ dALEPH dAYIN dBETH dDALETH dGIMEL dHE dHETH dKAPH dLAMEDH dMEM dNUN dPE dQOPH",
    "dRESH dSADHE dSAMEKH dSHIN dTAW dTETH dWAW dYODH dZAYIN cNUMBER_ dFOUR dONE dONE_ eHUNDRED",
    "eTHOUSAND dTEN dTHREE dTWENTY dTWO aINSERTION_ bSYMBOL aINTEGRAL aINTEGRAL_ bAROUND_ cA_",
    "dPOINT_ eOPERATOR bAVERAGE_ cWITH_ dSLASH bEXTENSION bWITH_ cDOUBLE_ dSTROKE cINTERSECTION",
    "cLEFTWARDS_ dARROW_ eWITH_ fHOOK cOVERBAR cTIMES_ dSIGN cUNDERBAR cUNION aINTERCALATE",
    "aINTERIOR_ bPRODUCT aINTERLINEAR_ bANNOTATION_ cANCHOR cSEPARATOR cTERMINATOR aINTERLOCKED_",
    "bFEMALE_ cAND_ dMALE_ eSIGN aINTERROBANG aINTERSECTION aINTERSECTION_ bABOVE_ cBAR_ dABOVE_",
    "eUNION cUNION bBESIDE_ cAND_ dJOINED_ eWITH_ fINTERSECTION bWITH_ cDOT cLOGICAL_ dAND",
    "cOVERBAR aINVERSE_ bBULLET bCHECKER_ cBOARD_ dFILL bCHECK_ cMARK bDOWNWARDS_ cARROW_ dWITH_",
    "eTIP_ fLEFTWARDS bMEDIUM_ cSHADE bWHITE_ cCIRCLE aINVERTED_ bEXCLAMATION_ cMARK",
    "bINTERROBANG bLAZY_ cS bLOW_ cKAVYKA cKAVYKA_ dWITH_ eKAVYKA_ fABOVE bOHM_ cSIGN bPENTAGRAM",
    "bQUESTION_ cMARK bUNDERTIE aINVISIBLE_ bPLUS bSEPARATOR bTIMES aIZAKAYA_ bLANTERN aI_",
    "bLOVE_ cYOU_ dHAND_ eSIGN aJACK- bO- cLANTERN aJAPANESE_ bBANK_ cSYMBOL bCASTLE bDOLLS",
    "bGOBLIN bINDUSTRIAL_ cSTANDARD_ dSYMBOL bOGRE bPOST_ cOFFICE bSYMBOL_ cFOR_ dBEGINNER aJAR",
    "aJAVANESE_ bCONSONANT_ cSIGN_ dCAKRA dKERET dPENGKAL bDIGIT_ cEIGHT cFIVE cFOUR cNINE cONE",
    "cSEVEN cSIX cTHREE cTWO cZERO bLEFT_ cRERENGGAN bLETTER_ cA cAI cBA cBA_ dMURDA cCA cCA_",
    "dMURDA cDA cDA_ dMAHAPRANA cDDA cDDA_ dMAHAPRANA cE cGA cGA_ dMURDA cHA cI cII cI_ dKAWI",
    "cJA cJA_ dMAHAPRANA cKA cKA_ dMURDA dSASAK cLA cMA cNA cNA_ dMURDA cNGA cNGA_ dLELET",
    "dLELET_ eRASWADI cNYA cNYA_ dMURDA cO cPA cPA_ dCEREK dMURDA cRA cRA_ dAGUNG cSA cSA_",
    "dMAHAPRANA dMURDA cTA cTA_ dMURDA cTTA cTTA_ dMAHAPRANA cU cWA cYA bPADA_ cADEG cADEG_",
    "dADEG cANDAP cISEN- dISEN cLINGSA cLUHUR cLUNGSI cMADYA cPANGKAT cPISELEH cTIRTA_ dTUMETES",
    "cWINDU bPANGKON bPANGRANGKEP bRIGHT_ cRERENGGAN bSIGN_ cCECAK cCECAK_ dTELU cLAYAR",
    "cPANYANGGA cWIGNYAN bTURNED_ cPADA_ dPISELEH bVOWEL_ cSIGN_ dDIRGA_ eMURE dPEPET dSUKU",
    "dSUKU_ eMENDUT dTALING dTARUNG dTOLONG dWULU dWULU_ eMELIK aJEANS aJIGSAW_ bPUZZLE_ cPIECE",
    "aJOIN aJOYSTICK aJUGGLING aJUNO aJUPITER aKAABA aKAITHI_ bABBREVIATION_ cSIGN bDANDA",
    "bDOUBLE_ cDANDA cSECTION_ dMARK bENUMERATION_ cSIGN bLETTER_ cA cAA cAI cAU cBA cBHA cCA",
    "cCHA cDA cDDA cDDDHA cDDHA cDHA cE cGA cGHA cHA cI cII cJA cJHA cKA cKHA cLA cMA cNA cNGA",
    "cNNA cNYA cO cPA cPHA cRA cRHA cSA cSHA cSSA cTA cTHA cTTA cTTHA cU cUU cVA cYA bNUMBER_",
    "cSIGN cSIGN_ dABOVE bSECTION_ cMARK bSIGN_ cANUSVARA cCANDRABINDU cNUKTA cVIRAMA cVISARGA",
    "bVOWEL_ cSIGN_ dAA dAI dAU dE dI dII dO dU dUU dVOCALIC_ eR aKANGAROO aKANGXI_ bRADICAL_",
    "cAGAIN cAND cARRIVE cARROW cAXE cBADGER cBAMBOO cBEAN cBIG cBIRD cBITTER cBLACK cBLOOD",
    "cBLUE cBOAT cBODY cBOLT_ dOF_ eCLOTH cBONE cBOW cBRANCH cBRISTLE cBRUSH cCART cCAULDRON",
    "cCAVE cCHILD cCITY cCLAN cCLAW cCLIFF cCLOTHES cCOLOR cCOMPARE cCORPSE cCOVER cCOW cDEATH",
    "cDEER cDIPPER cDISH cDISTINGUISH cDIVINATION cDOG cDOOR cDOT cDOTTED_ dCLIFF dTENT cDOUBLE_",
    "dX cDOWN_ dBOX cDO_ dNOT cDRAGON cDRUM cDRY cEAR cEARTH cEAT cEIGHT cEMBROIDERY cENCLOSURE",
    "cENTER cEVEN cEVENING cEYE cFACE cFANG cFATHER cFEATHER cFIELD cFIGHT cFIRE cFISH cFLUTE",
    "cFLY cFOOT cFRAGRANT cFROG cFUR cGATE cGHOST cGO cGOLD cGO_ dSLOWLY cGRAIN cGRASS cHAIR",
    "cHALBERD cHALF_ dTREE_ eTRUNK cHAND cHEAD cHEART cHEMP cHIDING_ dENCLOSURE cHOOK cHORN",
    "cHORSE cICE cINCH cINSECT cJADE cJAR cKNIFE cLACK cLAME cLEAF cLEATHER cLEEK cLEGS cLID",
    "cLIFE cLINE cLONG cLONG_ dSTRIDE cMAN cMEAT cMELON cMILLET cMINISTER cMOON cMORNING cMORTAR",
    "cMOUND cMOUNTAIN cMOUTH cNET cNOSE cNOT cOLD cONE cONESELF cOPEN_ dBOX cOPPOSE cPIG cPLOW",
    "cPOWER cPRIVATE cPROFOUND cRAIN cRAP cRAT cRED cRICE cRIGHT_ dOPEN_ eBOX cRIVER cROOF cRUN",
    "cSACRIFICIAL_ dWINE cSALT cSAY cSCHOLAR cSCRIPT cSEAL cSECOND cSEE cSELF cSHEEP cSHELL",
    "cSHOOT cSHORT_ dTAILED_ eBIRD dTHREAD cSICKNESS cSILK cSKIN cSLASH cSLAVE cSLICE cSMALL",
    "cSNOUT cSOUND cSPEAR cSPEECH cSPIRIT cSPOON cSPROUT cSQUARE cSTAND cSTEAM cSTEP cSTONE",
    "cSTOP cSTOPPING cSUN cSWEET cTABLE cTALL cTANNED_ dLEATHER cTEN cTIGER cTILE cTONGUE cTOOTH",
    "cTRACK cTREE cTRIPOD cTURBAN cTURTLE cTWO cTWO_ dHANDS cUSE cVALLEY cVILLAGE cWALK cWALK_",
    "dENCLOSURE cWATER cWEAPON cWEST cWHEAT cWHITE cWIND cWINE cWOMAN cWORK cWRAP cWRONG cYELLOW",
    "aKANNADA_ bAI_ cLENGTH_ dMARK bDIGIT_ cEIGHT cFIVE cFOUR cNINE cONE cSEVEN cSIX cTHREE cTWO",
    "cZERO bLENGTH_ cMARK bLETTER_ cA cAA cAI cAU cBA cBHA cCA cCHA cDA cDDA cDDHA cDHA cE cEE",
    "cFA cGA cGHA cHA cI cII cJA cJHA cKA cKHA cLA cLLA cLLLA cMA cNA cNAKAARA_ dPOLLU cNGA cNNA",
    "cNYA cO cOO cPA cPHA cRA cRRA cSA cSHA cSSA cTA cTHA cTTA cTTHA cU cUU cVA cVOCALIC_ dL dLL",
    "dR dRR cYA bSIGN_ cANUSVARA cAVAGRAHA cCANDRABINDU cJIHVAMULIYA cNUKTA cSIDDHAM cSPACING_",
    "dCANDRABINDU cUPADHMANIYA cVIRAMA cVISARGA bVOWEL_ cSIGN_ dAA dAI dAU dE dEE dI dII dO dOO",
    "dU dUU dVOCALIC_ eL eLL eR eRR aKATAKANA- bHIRAGANA_ cDOUBLE_ dHYPHEN cPROLONGED_ dSOUND_",
    "eMARK cSEMI- dVOICED_ eSOUND_ fMARK cVOICED_ dSOUND_ eMARK aKATAKANA_ bDIGRAPH_ cKOTO",
    "bITERATION_ cMARK bLETTER_ cA cARCHAIC_ dE dWU dYE dYI cBA cBE cBI cBO cBU cDA cDE cDI cDO",
    "cDU cE cGA cGE cGI cGO cGU cHA cHE cHI cHO cHU cI cKA cKE cKI cKO cKU cMA cME cMI cMINNAN_",
    "dNASALIZED_ eTONE- f1 f2 f3 f4 f5 f7 f8 dTONE- e2 e3 e4 e5 e7 e8 cMO cMU cN cNA cNE cNI cNO",
    "cNU cO cPA cPE cPI cPO cPU cRA cRE cRI cRO cRU cSA cSE cSI cSMALL_ dA dE dHA dHE dHI dHO",
    "dHU dI dKA dKE dKU dMU dN dNU dO dRA dRE dRI dRO dRU dSI dSU dTO dTU dU dWA dWE dWI dWO dYA",
    "dYO dYU cSO cSU cTA cTE cTI cTO cTU cU cVA cVE cVI cVO cVU cWA cWE cWI cWO cYA cYO cYU cZA",
    "cZE cZI cZO cZU bMIDDLE_ cDOT bVOICED_ cITERATION_ dMARK aKAYAH_ bLI_ cDIGIT_ dEIGHT dFIVE",
    "dFOUR dNINE dONE dSEVEN dSIX dTHREE dTWO dZERO cLETTER_ dA dBA dCA dDA dGA dHA dHTA dI dKA",
    "dKHA dLA dMA dNA dNGA dNYA dOE dOO dPA dPHA dRA dSA dSHA dTA dTHA dVA dWA dYA dZA cSIGN_",
    "dCWI dSHYA cTONE_ dCALYA dCALYA_ ePLOPHU dPLOPHU cVOWEL_ dE dEE dO dU dUE aKELVIN_ bSIGN",
    "aKEY aKEYBOARD aKEYBOARD_ bAND_ cMOUSE aKEYCAP_ bTEN aKHAROSHTHI_ bDIGIT_ cFOUR cONE cTHREE",
    "cTWO bFRACTION_ cONE_ dHALF bLETTER_ cA cBA cBHA cCA cCHA cDA cDDA cDDHA cDHA cGA cGHA cHA",
    "cJA cKA cKHA cKKA cLA cMA cNA cNNA cNYA cPA cPHA cRA cSA cSHA cSSA cTA cTHA cTTA cTTHA",
    "cTTTA cTTTHA cVA cVHA cYA cZA bNUMBER_ cONE_ dHUNDRED dTHOUSAND cTEN cTWENTY bPUNCTUATION_",
    "cCIRCLE cCRESCENT_ dBAR cDANDA cDOT cDOUBLE_ dDANDA cLINES cLOTUS cMANGALAM cSMALL_ dCIRCLE",
    "bSIGN_ cANUSVARA cBAR_ dABOVE cCAUDA cDOT_ dBELOW cDOUBLE_ dRING_ eBELOW cVISARGA bVIRAMA",
    "bVOWEL_ cLENGTH_ dMARK cSIGN_ dE dI dO dU dVOCALIC_ eR aKHITAN_ bSMALL_ cSCRIPT_",
    "dCHARACTER- e18B00 e18B01 e18B02 e18B03 e18B04 e18B05 e18B06 e18B07 e18B08 e18B09 e18B0A",
    "e18B0B e18B0C e18B0D e18B0E e18B0F e18B10 e18B11 e18B12 e18B13 e18B14 e18B15 e18B16 e18B17",
    "e18B18 e18B19 e18B1A e18B1B e18B1C e18B1D e18B1E e18B1F e18B20 e18B21 e18B22 e18B23 e18B24",
    "e18B25 e18B26 e18B27 e18B28 e18B29 e18B2A e18B2B e18B2C e18B2D e18B2E e18B2F e18B30 e18B31",
    "e18B32 e18B33 e18B34 e18B35 e18B36 e18B37 e18B38 e18B39 e18B3A e18B3B e18B3C e18B3D e18B3E",
    "e18B3F e18B40 e18B41 e18B42 e18B43 e18B44 e18B45 e18B46 e18B47 e18B48 e18B49 e18B4A e18B4B",
    "e18B4C e18B4D e18B4E e18B4F e18B50 e18B51 e18B52 e18B53 e18B54 e18B55 e18B56 e18B57 e18B58",
    "e18B59 e18B5A e18B5B e18B5C e18B5D e18B5E e18B5F e18B60 e18B61 e18B62 e18B63 e18B64 e18B65",
    "e18B66 e18B67 e18B68 e18B69 e18B6A e18B6B e18B6C e18B6D e18B6E e18B6F e18B70 e18B71 e18B72",
    "e18B73 e18B74 e18B75 e18B76 e18B77 e18B78 e18B79 e18B7A e18B7B e18B7C e18B7D e18B7E e18B7F",
    "e18B80 e18B81 e18B82 e18B83 e18B84 e18B85 e18B86 e18B87 e18B88 e18B89 e18B8A e18B8B e18B8C",
    "e18B8D e18B8E e18B8F e18B90 e18B91 e18B92 e18B93 e18B94 e18B95 e18B96 e18B97 e18B98 e18B99",
    "e18B9A e18B9B e18B9C e18B9D e18B9E e18B9F e18BA0 e18BA1 e18BA2 e18BA3 e18BA4 e18BA5 e18BA6",
    "e18BA7 e18BA8 e18BA9 e18BAA e18BAB e18BAC e18BAD e18BAE e18BAF e18BB0 e18BB1 e18BB2 e18BB3",
    "e18BB4 e18BB5 e18BB6 e18BB7 e18BB8 e18BB9 e18BBA e18BBB e18BBC e18BBD e18BBE e18BBF e18BC0",
    "e18BC1 e18BC2 e18BC3 e18BC4 e18BC5 e18BC6 e18BC7 e18BC8 e18BC9 e18BCA e18BCB e18BCC e18BCD",
    "e18BCE e18BCF e18BD0 e18BD1 e18BD2 e18BD3 e18BD4 e18BD5 e18BD6 e18BD7 e18BD8 e18BD9 e18BDA",
    "e18BDB e18BDC e18BDD e18BDE e18BDF e18BE0 e18BE1 e18BE2 e18BE3 e18BE4 e18BE5 e18BE6 e18BE7",
    "e18BE8 e18BE9 e18BEA e18BEB e18BEC e18BED e18BEE e18BEF e18BF0 e18BF1 e18BF2 e18BF3 e18BF4",
    "e18BF5 e18BF6 e18BF7 e18BF8 e18BF9 e18BFA e18BFB e18BFC e18BFD e18BFE e18BFF e18C00 e18C01",
    "e18C02 e18C03 e18C04 e18C05 e18C06 e18C07 e18C08 e18C09 e18C0A e18C0B e18C0C e18C0D e18C0E",
    "e18C0F e18C10 e18C11 e18C12 e18C13 e18C14 e18C15 e18C16 e18C17 e18C18 e18C19 e18C1A e18C1B",
    "e18C1C e18C1D e18C1E e18C1F e18C20 e18C21 e18C22 e18C23 e18C24 e18C25 e18C26 e18C27 e18C28",
    "e18C29 e18C2A e18C2B e18C2C e18C2D e18C2E e18C2F e18C30 e18C31 e18C32 e18C33 e18C34 e18C35",
    "e18C36 e18C37 e18C38 e18C39 e18C3A e18C3B e18C3C e18C3D e18C3E e18C3F e18C40 e18C41 e18C42",
    "e18C43 e18C44 e18C45 e18C46 e18C47 e18C48 e18C49 e18C4A e18C4B e18C4C e18C4D e18C4E e18C4F",
    "e18C50 e18C51 e18C52 e18C53 e18C54 e18C55 e18C56 e18C57 e18C58 e18C59 e18C5A e18C5B e18C5C",
    "e18C5D e18C5E e18C5F e18C60 e18C61 e18C62 e18C63 e18C64 e18C65 e18C66 e18C67 e18C68 e18C69",
    "e18C6A e18C6B e18C6C e18C6D e18C6E e18C6F e18C70 e18C71 e18C72 e18C73 e18C74 e18C75 e18C76",
    "e18C77 e18C78 e18C79 e18C7A e18C7B e18C7C e18C7D e18C7E e18C7F e18C80 e18C81 e18C82 e18C83",
    "e18C84 e18C85 e18C86 e18C87 e18C88 e18C89 e18C8A e18C8B e18C8C e18C8D e18C8E e18C8F e18C90",
    "e18C91 e18C92 e18C93 e18C94 e18C95 e18C96 e18C97 e18C98 e18C99 e18C9A e18C9B e18C9C e18C9D",
    "e18C9E e18C9F e18CA0 e18CA1 e18CA2 e18CA3 e18CA4 e18CA5 e18CA6 e18CA7 e18CA8 e18CA9 e18CAA",
    "e18CAB e18CAC e18CAD e18CAE e18CAF e18CB0 e18CB1 e18CB2 e18CB3 e18CB4 e18CB5 e18CB6 e18CB7",
    "e18CB8 e18CB9 e18CBA e18CBB e18CBC e18CBD e18CBE e18CBF e18CC0 e18CC1 e18CC2 e18CC3 e18CC4",
    "e18CC5 e18CC6 e18CC7 e18CC8 e18CC9 e18CCA e18CCB e18CCC e18CCD e18CCE e18CCF e18CD0 e18CD1",
    "e18CD2 e18CD3 e18CD4 e18CD5 dFILLER aKHMER_ bCURRENCY_ cSYMBOL_ dRIEL bDIGIT_ cEIGHT cFIVE",
    "cFOUR cNINE cONE cSEVEN cSIX cTHREE cTWO cZERO bINDEPENDENT_ cVOWEL_ dLY dLYY dQAA dQAI",
    "dQAQ dQAU dQE dQI dQII dQOO_ eTYPE_ fONE fTWO dQU dQUK dQUU dQUUV dRY dRYY bLETTER_ cBA cCA",
    "cCHA cCHO cCO cDA cDO cHA cKA cKHA cKHO cKO cLA cLO cMO cNGO cNNO cNO cNYO cPHA cPHO cPO",
    "cQA cRO cSA cSHA cSSO cTA cTHA cTHO cTO cTTHA cTTHO cVO cYO bSIGN_ cAHSDA cATTHACAN",
    "cAVAKRAHASANYA cBANTOC cBARIYOOSAN cBATHAMASAT cBEYYAL cCAMNUC_ dPII_ eKUUH cCOENG cKAKABAT",
    "cKHAN cKOOMUUT cLEK_ dTOO cMUUSIKATOAN cNIKAHIT cPHNAEK_ dMUAN cREAHMUK cROBAT cSAMYOK_",
    "dSANNYA cTOANDAKHIAT cTRIISAP cVIRIAM cYUUKALEAPINTU bSYMBOL_ cBEI_ dKOET dROC cBUON_ dKOET",
    "dROC cDAP- dBEI_ eKOET eROC dBUON_ eKOET eROC dMUOY_ eKOET eROC dPII_ eKOET eROC dPRAM_",
    "eKOET eROC cDAP_ dKOET dROC cLEK_ dATTAK_ eBEI eBUON eMUOY ePII ePRAM ePRAM- fBEI fBUON",
    "fMUOY fPII eSON cMUOY_ dKOET dROC cPATHAMASAT cPII_ dKOET dROC cPRAM- dBEI_ eKOET eROC",
    "dBUON_ eKOET eROC dMUOY_ eKOET eROC dPII_ eKOET eROC cPRAM_ dKOET dROC cTUTEYASAT bVOWEL_",
    "cINHERENT_ dAA dAQ cSIGN_ dAA dAE dAI dAU dE dI dIE dII dOE dOO dU dUA dUU dY dYA dYY",
    "aKHOJKI_ bABBREVIATION_ cSIGN bDANDA bDOUBLE_ cDANDA cSECTION_ dMARK bLETTER_ cA cAA cAI",
    "cAU cBA cBBA cBHA cCA cCHA cDA cDDA cDDDA cDDHA cDHA cE cGA cGGA cGHA cHA cI cJA cJJA cKA",
    "cKHA cLA cLLA cMA cNA cNGA cNNA cNYA cO cPA cPHA cRA cSA cTA cTHA cTTA cTTHA cU cVA cYA",
    "bSECTION_ cMARK bSIGN_ cANUSVARA cNUKTA cSHADDA cSUKUN cVIRAMA bVOWEL_ cSIGN_ dAA dAI dAU",
    "dE dI dII dO dU bWORD_ cSEPARATOR aKHUDAWADI_ bDIGIT_ cEIGHT cFIVE cFOUR cNINE cONE cSEVEN",
    "cSIX cTHREE cTWO cZERO bLETTER_ cA cAA cAI cAU cBA cBBA cBHA cCA cCHA cDA cDDA cDDDA cDDHA",
    "cDHA cE cGA cGGA cGHA cHA cI cII cJA cJHA cJJA cKA cKHA cLA cMA cNA cNGA cNNA cNYA cO cPA",
    "cPHA cRA cRRA cSA cSHA cTA cTHA cTTA cTTHA cU cUU cVA cYA bSIGN_ cANUSVARA cNUKTA cVIRAMA",
    "bVOWEL_ cSIGN_ dAA dAI dAU dE dI dII dO dU dUU aKIMONO aKIP_ bSIGN aKISS aKISSING_ bCAT_",
    "cFACE_ dWITH_ eCLOSED_ fEYES bFACE bFACE_ cWITH_ dCLOSED_ eEYES dSMILING_ eEYES aKISS_",
    "bMARK aKITE aKIWIFRUIT aKNEELING_ bPERSON aKNOT aKOALA aKOREAN_ bSTANDARD_ cSYMBOL aKRONOS"]

end GoMetrics.Text.CharName
