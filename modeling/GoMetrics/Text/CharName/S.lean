/-!
Names of characters that begin with S, as a tree of their words (Unicode 14).
-/

namespace GoMetrics.Text.CharName

def namesS : List String :=
  ["aSAFETY_ bPIN bVEST aSAGITTARIUS aSAILBOAT aSAKE_ bBOTTLE_ cAND_ dCUP aSALTIRE aSALT_",
    "bSHAKER aSALUTING_ bFACE aSAMARITAN_ bABBREVIATION_ cMARK bLETTER_ cALAF cBAA cBIT cDALAT",
    "cFI cGAMAN cIN cIT cIY cKAAF cLABAT cMIM cNUN cQUF cRISH cSHAN cSINGAAT cTAAF cTIT cTSAADIY",
    "cYUT cZEN bMARK_ cDAGESH cEPENTHETIC_ dYUT cIN cIN- dALAF cNEQUDAA cOCCLUSION bMODIFIER_",
    "cLETTER_ dEPENTHETIC_ eYUT dI dSHORT_ eA bPUNCTUATION_ cAFSAAQ cANGED cANNAAU cARKAANU",
    "cATMAAU cBAU cMELODIC_ dQITSA cNEQUDAA cQITSA cSHIYYAALAA cSOF_ dMASHFAAT cTURU cZAEF",
    "cZIQAA bVOWEL_ cSIGN_ dA dAA dE dI dLONG_ eA eAA eE eI eU dO dOVERLONG_ eA eAA dSHORT_ eA",
    "dSUKUN dU aSANDWICH aSANS- bSERIF_ cHEAVY_ dDOUBLE_ eCOMMA_ fQUOTATION_ gMARK_ hORNAMENT",
    "eTURNED_ fCOMMA_ gQUOTATION_ hMARK_ iORNAMENT dLOW_ eDOUBLE_ fCOMMA_ gQUOTATION_ hMARK_",
    "iORNAMENT cINTERROBANG_ dORNAMENT aSARI aSATELLITE aSATELLITE_ bANTENNA aSATURN",
    "aSAURASHTRA_ bCONSONANT_ cSIGN_ dHAARU bDANDA bDIGIT_ cEIGHT cFIVE cFOUR cNINE cONE cSEVEN",
    "cSIX cTHREE cTWO cZERO bDOUBLE_ cDANDA bLETTER_ cA cAA cAI cAU cBA cBHA cCA cCHA cDA cDDA",
    "cDDHA cDHA cE cEE cGA cGHA cHA cI cII cJA cJHA cKA cKHA cLA cLLA cMA cNA cNGA cNNA cNYA cO",
    "cOO cPA cPHA cRA cSA cSHA cSSA cTA cTHA cTTA cTTHA cU cUU cVA cVOCALIC_ dL dLL dR dRR cYA",
    "bSIGN_ cANUSVARA cCANDRABINDU cVIRAMA cVISARGA bVOWEL_ cSIGN_ dAA dAI dAU dE dEE dI dII dO",
    "dOO dU dUU dVOCALIC_ eL eLL eR eRR aSAUROPOD aSAXOPHONE aSCALES aSCARF aSCHOOL aSCHOOL_",
    "bSATCHEL aSCI aSCOOTER aSCORPION aSCORPIUS aSCREEN aSCREWDRIVER aSCRIPT_ bCAPITAL_ cB cE cF",
    "cH cI cL cM cP cR bLIGATURE_ cET_ dORNAMENT bSMALL_ cE cG cL cO aSCROLL aSCRUPLE aSEAL",
    "aSEAT aSECOND_ bPLACE_ cMEDAL aSECTION_ bSIGN aSECTOR aSEDNA aSEE- bNO- cEVIL_ dMONKEY",
    "aSEEDLING aSEGMENT aSEGMENTED_ bDIGIT_ cEIGHT cFIVE cFOUR cNINE cONE cSEVEN cSIX cTHREE",
    "cTWO cZERO aSELFIE aSEMICOLON aSEMIDIRECT_ bPRODUCT_ cWITH_ dBOTTOM_ eCLOSED aSEMISEXTILE",
    "aSEPARATED_ bSYMBOL aSERIOUS_ bFACE_ cWITH_ dSYMBOLS_ eCOVERING_ fMOUTH aSERVICE_ bMARK",
    "aSESAME_ bDOT aSESQUIQUADRATE aSET_ bMINUS bTRANSMIT_ cSTATE aSEWING_ bNEEDLE aSEXTILE aSGC",
    "aSHADOWED_ bWHITE_ cCIRCLE cLATIN_ dCROSS cSTAR aSHALLOW_ bPAN_ cOF_ dFOOD aSHAMROCK",
    "aSHARADA_ bABBREVIATION_ cSIGN bCONTINUATION_ cSIGN bDANDA bDIGIT_ cEIGHT cFIVE cFOUR cNINE",
    "cONE cSEVEN cSIX cTHREE cTWO cZERO bDOUBLE_ cDANDA bEKAM bEXTRA_ cSHORT_ dVOWEL_ eMARK",
    "bHEADSTROKE bLETTER_ cA cAA cAI cAU cBA cBHA cCA cCHA cDA cDDA cDDHA cDHA cE cGA cGHA cHA",
    "cI cII cJA cJHA cKA cKHA cLA cLLA cMA cNA cNGA cNNA cNYA cO cPA cPHA cRA cSA cSHA cSSA cTA",
    "cTHA cTTA cTTHA cU cUU cVA cVOCALIC_ dL dLL dR dRR cYA bOM bSANDHI_ cMARK bSECTION_ cMARK-",
    "d1 d2 bSEPARATOR bSIGN_ cANUSVARA cAVAGRAHA cCANDRABINDU cINVERTED_ dCANDRABINDU",
    "cJIHVAMULIYA cNUKTA cSIDDHAM cUPADHMANIYA cVIRAMA cVISARGA bSUTRA_ cMARK bVOWEL_ cMODIFIER_",
    "dMARK cSIGN_ dAA dAI dAU dE dI dII dO dPRISHTHAMATRA_ eE dU dUU dVOCALIC_ eL eLL eR eRR",
    "aSHARK aSHAVED_ bICE aSHAVIAN_ bLETTER_ cADO cAGE cAH cAIR cARE cARRAY cASH cAWE cBIB",
    "cCHURCH cDEAD cEAR cEAT cEGG cERR cFEE cGAG cHA- dHA cHUNG cIAN cICE cIF cJUDGE cKICK cLOLL",
    "cMEASURE cMIME cNUN cOAK cOIL cON cOOZE cOR cOUT cPEEP cROAR cSO cSURE cTHEY cTHIGH cTOT",
    "cUP cVOW cWOE cWOOL cYEA cYEW cZOO aSHEEP aSHIELD aSHIFT_ bIN bOUT aSHINTO_ bSHRINE aSHIP",
    "aSHOCKED_ bFACE_ cWITH_ dEXPLODING_ eHEAD aSHOOTING_ bSTAR aSHOPPING_ bBAGS bTROLLEY",
    "aSHORTCAKE aSHORTHAND_ bFORMAT_ cCONTINUING_ dOVERLAP cDOWN_ dSTEP cLETTER_ dOVERLAP cUP_",
    "dSTEP aSHORTS aSHORT_ bBACKSLANTED_ cSOUTH_ dARROW bBENT_ cARROW_ dPOINTING_ eDOWNWARDS_",
    "fTHEN_ gNORTH_ hEAST bDOWN_ cTACK cTACK_ dWITH_ eOVERBAR bLEFT_ cTACK bRIGHTWARDS_ cARROW_",
    "dABOVE_ eLEFTWARDS_ fARROW bSLANTED_ cNORTH_ dARROW bUP_ cTACK cTACK_ dABOVE_ eSHORT_",
    "fDOWN_ gTACK dWITH_ eUNDERBAR aSHOULDERED_ bOPEN_ cBOX aSHOWER aSHRIMP aSHRUG aSHUFFLE_",
    "bPRODUCT aSHY aSI aSIDDHAM_ bDANDA bDOUBLE_ cDANDA bEND_ cOF_ dTEXT_ eMARK bLETTER_ cA cAA",
    "cAI cALTERNATE_ dU cAU cBA cBHA cCA cCHA cDA cDDA cDDHA cDHA cE cGA cGHA cHA cI cII cJA",
    "cJHA cKA cKHA cLA cMA cNA cNGA cNNA cNYA cO cPA cPHA cRA cSA cSHA cSSA cTA cTHA cTHREE-",
    "dCIRCLE_ eALTERNATE_ fI cTTA cTTHA cTWO- dCIRCLE_ eALTERNATE_ fI fII cU cUU cVA cVOCALIC_",
    "dL dLL dR dRR cYA bREPETITION_ cMARK- d1 d2 d3 bSECTION_ cMARK_ dDOUBLE_ eRING eRING_",
    "fWITH_ gRAYS dWITH_ eCIRCLES_ fAND_ gFOUR_ hENCLOSURES gRAYS gTWO_ hENCLOSURES eDOUBLE_",
    "fCRESCENTS eQUADRUPLE_ fCRESCENTS eRAYS_ fAND_ gDOTTED_ hCRESCENTS hDOUBLE_ iCRESCENTS",
    "hTRIPLE_ iCRESCENTS eSEPTUPLE_ fCRESCENTS eTRIDENT_ fAND_ gDOTTED_ hCRESCENTS gU- hSHAPED_",
    "iORNAMENTS eTRIPLE_ fCRESCENTS bSEPARATOR_ cBAR cDOT bSIGN_ cANUSVARA cCANDRABINDU cNUKTA",
    "cSIDDHAM cVIRAMA cVISARGA bVOWEL_ cSIGN_ dAA dAI dALTERNATE_ eU eUU dAU dE dI dII dO dU dUU",
    "dVOCALIC_ eR eRR aSIDEWAYS_ bBLACK_ cDOWN_ dPOINTING_ eINDEX cLEFT_ dPOINTING_ eINDEX",
    "cRIGHT_ dPOINTING_ eINDEX cUP_ dPOINTING_ eINDEX bWHITE_ cDOWN_ dPOINTING_ eINDEX cLEFT_",
    "dPOINTING_ eINDEX cRIGHT_ dPOINTING_ eINDEX cUP_ dPOINTING_ eINDEX aSIGNWRITING_ bAIR_",
    "cBLOWING_ dOUT cBLOW_ dSMALL_ eROTATIONS cSUCKING_ dIN cSUCK_ dSMALL_ eROTATIONS bBREATH_",
    "cEXHALE cINHALE bBRUSH_ cBETWEEN cMULTIPLE cSINGLE bCHEEKS_ cNEUTRAL cPUFFED cSUCKED bCOLON",
    "bCOMMA bDREAMY_ cEYEBROWS_ dDOWN_ eNEUTRAL dNEUTRAL_ eDOWN eUP dUP_ eNEUTRAL bDYNAMIC_",
    "cARROWHEAD_ dLARGE dSMALL cEVERY_ dOTHER_ eTIME cFAST cGRADUAL cRELAXED cSIMULTANEOUS",
    "cSIMULTANEOUS_ dALTERNATING cSLOW cTENSE bEARS bEXCITEMENT bEYEBROWS_ cSTRAIGHT_ dDOWN",
    "dNEUTRAL dUP bEYEGAZE- cFLOORPLANE_ dCURVED dSTRAIGHT dSTRAIGHT_ eALTERNATING eDOUBLE",
    "cWALLPLANE_ dCIRCLING dCURVED dSTRAIGHT dSTRAIGHT_ eALTERNATING eDOUBLE bEYELASHES_ cDOWN",
    "cFLUTTERING cUP bEYES_ cCLOSED cHALF_ dCLOSED dOPEN cOPEN cSQUEEZED cWIDENING_ dMOVEMENT",
    "cWIDE_ dOPEN bEYE_ cBLINK_ dMULTIPLE dSINGLE cWINK bFACE_ cDIRECTION_ dPOSITION_ eNOSE_",
    "fFORWARD_ gTILTING fUP_ gOR_ hDOWN hDOWN_ iTILTING bFILL_ cMODIFIER- d2 d3 d4 d5 d6 bFINGER",
    "bFLICK_ cLARGE_ dMULTIPLE dSINGLE cSEQUENTIAL cSMALL_ dMULTIPLE dSINGLE bFLOORPLANE_",
    "cSHOULDER_ dHIP_ eMOVE bFOREHEAD_ cCONTACT cNEUTRAL cWRINKLED bFULL_ cSTOP bGRASP_ cBETWEEN",
    "cMULTIPLE cSINGLE bHAIR bHAND- cANGLE cANGLE_ dINDEX dINDEX_ eMIDDLE_ fLITTLE fRING eRING_",
    "fLITTLE fLITTLE_ gOUT eTHUMB eTHUMB_ fIN fOUT dLITTLE_ eINDEX eINDEX_ fTHUMB_ gINDEX_",
    "hTHUMB hTHUMB_ iOUT eUP dMIDDLE_ eRING_ fLITTLE fLITTLE_ gIN gOUT dRING_ eDOWN_ fMIDDLE_",
    "gTHUMB_ hINDEX_ iCROSS eLITTLE cCIRCLE cCIRCLE_ dINDEX dINDEX_ eBENT eHINGE eMIDDLE",
    "eMIDDLE_ fCROSSED fCROSS_ gLITTLE fLITTLE fRING fTHUMB eRING_ fLITTLE dLITTLE_ eINDEX eUP",
    "dMIDDLE_ eRING_ fLITTLE fLITTLE_ gBENT eUP dRING_ eLITTLE cCLAW cCLAW_ dFOUR_ eFINGERS_",
    "fCONJOINED dINDEX_ eTHUMB_ fCURVE_ gTHUMB_ hINSIDE dMIDDLE_ eRING_ fLITTLE_ gCONJOINED",
    "gCONJOINED_ hSIDE dNO_ eTHUMB dTHUMB_ eFORWARD eSIDE cCUP cCUP_ dFIVE_ eFINGERS_ fSPREAD",
    "fSPREAD_ gOPEN dINDEX dINDEX_ eRING_ fLITTLE eTHUMB eTHUMB_ fOPEN dMIDDLE_ eRING_ fLITTLE",
    "dNO_ eTHUMB dOPEN dOPEN_ eNO_ fTHUMB eTHUMB_ fFORWARD fSIDE dTHUMB_ eFORWARD eSIDE",
    "cCURLICUE cCURLICUE_ dINDEX_ eRING_ fLITTLE_ gON dMIDDLE_ eRING_ fLITTLE_ gON dOPEN cFIST",
    "cFIST_ dFOUR_ eFINGERS_ fCONJOINED_ gBENT dHEEL dINDEX dINDEX_ eBENT eBENT_ fOVER_ gMIDDLE",
    "eCUPPED eHINGED eHINGED_ fLOW fMIDDLE_ gUP gUP_ hTHUMB_ iSIDE eMIDDLE eMIDDLE_ fBENT fBENT_",
    "gTHUMB_ hSTRAIGHT fCONJOINED fCONJOINED_ gCUPPED gCUPPED_ hTHUMB_ iFORWARD gHINGED gHINGED_",
    "hTHUMB_ iSIDE gINDEX_ hBENT gMIDDLE_ hBENT gTHUMB_ hFORWARD hSIDE hSIDE_ iBENT iCONJOINED",
    "fCROSSED fCROSSED_ gTHUMB_ hSIDE fCROSS_ gLITTLE fHINGED fHINGED_ gSPREAD_ hTHUMB_ iSIDE",
    "fLITTLE fRAISED_ gKNUCKLES fRING fRING_ gBENT gCONJOINED fSTRAIGHT_ gTHUMB_ hBENT fTHUMB",
    "fTHUMB_ gANGLED gANGLED_ hOUT gBENT gCIRCLED gCONJOINED_ hHINGED gCUPPED gHINGED gHOOKED",
    "fUP_ gSPREAD_ hTHUMB_ iFORWARD eRAISED_ fKNUCKLE eRING_ fLITTLE eTHUMB_ fANGLED_ gIN_",
    "hMIDDLE_ iUP gOUT_ hMIDDLE_ iUP fCIRCLE fCIRCLED_ gMIDDLE_ hUP fCUPPED_ gMIDDLE_ hUP",
    "fCURLICUE fCURVE_ gTHUMB_ hINSIDE hUNDER fFORWARD_ gINDEX_ hBENT hSTRAIGHT fHOOK fHOOKED_",
    "gMIDDLE_ hHINGED hUP fSIDE fSIDE_ gBOTH_ hBENT gINDEX_ hBENT hHINGE gTHUMB_ hBENT",
    "hCONJOINED hDIAGONAL eUP_ fMIDDLE_ gHINGED gHINGED_ hTHUMB_ iCONJOINED iSIDE dLITTLE_ eBENT",
    "eDOWN eDOWN_ fOTHERS_ gCIRCLED fRIPPLE_ gCURVED gSTRAIGHT eINDEX eINDEX_ fTHUMB eRAISED_",
    "fKNUCKLE eTHUMB eTOUCHES_ fTHUMB eUP dMIDDLE_ eBENT_ fOVER_ gINDEX eDOWN eLITTLE eRAISED_",
    "fKNUCKLE eRING_ fLITTLE eTHUMB_ fANGLED_ gINDEX_ hUP gOUT_ hINDEX_ iCROSSED iUP fCIRCLED_",
    "gINDEX_ hHINGED hUP fCUPPED_ gINDEX_ hUP fHOOKED_ gINDEX_ hUP fLITTLE eUP eUP_ fTHUMB_",
    "gSIDE dRING_ eDOWN eINDEX eLITTLE eMIDDLE eMIDDLE_ fCONJOINED fRAISED_ gKNUCKLES eRAISED_",
    "fKNUCKLE eTHUMB eUP dTHUMB dTHUMB_ eBETWEEN_ fINDEX_ gMIDDLE gMIDDLE_ hSTRAIGHT fMIDDLE_",
    "gRING fRING_ gLITTLE eFORWARD eHEEL eOVER_ fFOUR_ gRAISED_ hKNUCKLES fTWO_ gFINGERS eSIDE_",
    "fBENT fCONJOINED fDIAGONAL eUNDER_ fFOUR_ gFINGERS fINDEX_ gBENT fLITTLE_ gUP fTHREE_",
    "gFINGERS fTWO_ gFINGERS cFLAT cFLAT_ dBETWEEN_ ePALM_ fFACINGS dFIVE_ eFINGERS_ fSPREAD",
    "fSPREAD_ gBENT gFOUR_ hBENT gHINGED gHINGED_ hNO_ iTHUMB hTHUMB_ iSIDE gTHUMB_ hFORWARD",
    "dFOUR_ eFINGERS eFINGERS_ fBENT fCONJOINED fCONJOINED_ gSPLIT fHINGED dHEEL dHEEL_ eFIVE_",
    "fFINGERS_ gSPREAD gSPREAD_ hBENT hFOUR_ iBENT eTHUMB_ fSIDE dSPLIT_ eCENTRE eCENTRE_",
    "fTHUMB_ gSIDE gSIDE_ hBENT eINDEX_ fTHUMB_ gSIDE eLITTLE dTHUMB_ eBENT eFORWARD eSIDE",
    "cHINGE cHINGE_ dFIVE_ eFINGERS_ fSPREAD_ gOPEN dFOUR_ eFINGERS_ fCONJOINED dINDEX dINDEX_",
    "eHINGED eMIDDLE_ fLITTLE fRING fRING_ gCONJOINED eRING_ fLITTLE eTHUMB eTHUMB_ fLARGE fOPEN",
    "fSIDE fSMALL dLITTLE dLITTLE_ eINDEX eINDEX_ fTHUMB eTHUMB dMIDDLE dMIDDLE_ eRING_ fLITTLE",
    "dNO_ eTHUMB dOPEN dOPEN_ eNO_ fTHUMB eTHUMB_ fFORWARD fSIDE dRING dRING_ eDOWN_ fINDEX_",
    "gTHUMB_ hHOOK_ iMIDDLE dSMALL dTHUMB_ eBETWEEN_ fMIDDLE_ gRING eSIDE eSIDE_ fTOUCHING_",
    "gINDEX cHOOK cHOOK_ dCURLICUE dINDEX_ eRING_ fLITTLE_ gIN gOUT gUNDER dMIDDLE_ eRING_",
    "fLITTLE_ gCONJOINED gCONJOINED_ hIN hOUT eTHUMB dRING_ eTHUMB cOVAL cOVAL_ dFIVE_ eFINGERS_",
    "fSPREAD dINDEX dLITTLE_ eUP dNO_ eTHUMB dRING_ eLITTLE dTHUMB_ eFORWARD eSIDE bHEAD bHEAD_",
    "cMOVEMENT- dFLOORPLANE_ eCURVE eSTRAIGHT dWALLPLANE_ eCURVE eSTRAIGHT eTILT cMOVEMENT_",
    "dCIRCLE cRIM bLIMB_ cCOMBINATION cLENGTH- d1 d2 d3 d4 d5 d6 d7 bLIPS_ cPRESSED_ dTOGETHER",
    "bLIP_ cLOWER_ dOVER_ eUPPER cUPPER_ dOVER_ eLOWER bLOCATION- cFLOORPLANE_ dSPACE",
    "cWALLPLANE_ dSPACE bLOCATION_ cDEPTH cHEAD_ dNECK cHEIGHT cLIMBS_ dDIGITS cTORSO cWIDTH",
    "bMOUTH_ cCLOSED_ dCONTACT dFORWARD dNEUTRAL cCORNERS cFROWN cFROWN_ dOPEN dWRINKLED cKISS",
    "cKISS_ dFORWARD dWRINKLED cOPEN_ dCIRCLE dFORWARD dOVAL dOVAL_ eWRINKLED eYAWN dRECTANGLE",
    "dRECTANGLE_ eWRINKLED eYAWN dWRINKLED cSMILE cSMILE_ dOPEN dWRINKLED cTENSE cTENSE_",
    "dFORWARD dSUCKED cWRINKLES_ dDOUBLE dSINGLE bMOVEMENT- cDIAGONAL_ dAWAY_ eLARGE eLARGEST",
    "eMEDIUM eSMALL dBETWEEN_ eAWAY_ fLARGE fLARGEST fMEDIUM fSMALL eTOWARDS_ fLARGE fLARGEST",
    "fMEDIUM fSMALL dTOWARDS_ eLARGE eLARGEST eMEDIUM eSMALL cFLOORPLANE_ dARM_ eCIRCLE_",
    "fHITTING_ gWALL_ hLARGE_ iDOUBLE iSINGLE hMEDIUM_ iDOUBLE iSINGLE hSMALL_ iDOUBLE iSINGLE",
    "dBEND dBOX_ eLARGE eMEDIUM eSMALL dCHECK dCORNER_ eLARGE eMEDIUM eSMALL dCROSS dCURVE_",
    "eCOMBINED eHITTING_ fCEILING_ gLARGE gSMALL fFLOOR_ gLARGE gSMALL eLARGE eLARGEST eMEDIUM",
    "eSMALL dDOUBLE_ eALTERNATING eALTERNATING_ fWRIST_ gFLEX eSTRAIGHT eWRIST_ fFLEX dFINGER_",
    "eCIRCLES_ fHITTING_ gWALL_ hDOUBLE hSINGLE eCONTACT dHUMP_ eHITTING_ fCEILING_ gLARGE_",
    "hDOUBLE hTRIPLE gSMALL_ hDOUBLE hTRIPLE fFLOOR_ gLARGE_ hDOUBLE gSMALL_ hDOUBLE gTRIPLE_",
    "hLARGE_ iTRIPLE hSMALL_ iTRIPLE eSMALL dJAW dLOOP_ eHITTING_ fCEILING_ gLARGE_ hDOUBLE",
    "hSINGLE gSMALL_ hDOUBLE hSINGLE fFLOOR_ gLARGE_ hDOUBLE hSINGLE gSMALL_ hDOUBLE hSINGLE",
    "eSMALL dPEAKS_ eLARGE eMEDIUM eSMALL dSHAKING_ ePARALLEL dSINGLE_ eSTRAIGHT_ fLARGE",
    "fLARGEST fMEDIUM fSMALL eWRIST_ fFLEX dTRIPLE_ eALTERNATING_ fMOVEMENT fWRIST_ gFLEX",
    "eSTRAIGHT_ fMOVEMENT eWRIST_ fFLEX dWAVE_ eHITTING_ fCEILING_ gLARGE gSMALL fFLOOR_ gLARGE",
    "gSMALL eLARGE eSMALL eSNAKE dWRIST_ eCIRCLE_ fHITTING_ gWALL_ hDOUBLE hSINGLE dZIGZAG_",
    "eLARGE eMEDIUM eSMALL cHINGE_ dDOWN_ eSEQUENTIAL dSIDE_ eTO_ fSIDE_ gSCISSORS dUP_ eDOWN_",
    "fALTERNATING_ gLARGE gSMALL fLARGE fSMALL eSEQUENTIAL cWALLPLANE_ dARM_ eCIRCLE_ fMEDIUM_",
    "gDOUBLE gSINGLE fSMALL_ gDOUBLE gSINGLE dBEND_ eLARGE eMEDIUM eSMALL dBOX_ eLARGE eMEDIUM",
    "eSMALL dCHECK_ eLARGE eMEDIUM eSMALL dCORNER_ eLARGE eMEDIUM eROTATION eSMALL dCROSS",
    "dCURVED_ eCROSS_ fMEDIUM fSMALL dCURVE_ eHALF- fCIRCLE_ gLARGE gLARGEST gMEDIUM gSMALL",
    "eHITTING_ fCHEST fFRONT_ gWALL eQUARTER_ fLARGE fLARGEST fMEDIUM fSMALL eTHEN_ fSTRAIGHT",
    "eTHREE- fQUARTER_ gCIRCLE_ hMEDIUM hSMALL dDOUBLE_ eALTERNATING eALTERNATING_ fWRIST_ gFLEX",
    "eSTRAIGHT eWRIST_ fFLEX dFINGER_ eCIRCLES_ fDOUBLE fSINGLE eCONTACT dHUMP_ eHITTING_ fCHEST",
    "fFRONT_ gWALL eLARGE eMEDIUM eSMALL dJAW dLOOP_ eHITTING_ fCHEST fFRONT_ gWALL eLARGE",
    "eMEDIUM eSMALL eSMALL_ fDOUBLE dPEAKS_ eLARGE eMEDIUM eSMALL dSHAKING dSINGLE_ eSTRAIGHT_",
    "fLARGE fLARGEST fMEDIUM fSMALL eWRIST_ fFLEX dTRIPLE_ eALTERNATING eALTERNATING_ fWRIST_",
    "gFLEX eSTRAIGHT_ fMOVEMENT eWRIST_ fFLEX dWAVE_ eCURVE_ fDOUBLE_ gLARGE gMEDIUM gSMALL",
    "fTRIPLE_ gLARGE gMEDIUM gSMALL eDIAGONAL_ fPATH_ gLARGE gMEDIUM gSMALL eHITTING_ fCHEST",
    "fFRONT_ gWALL dWRIST_ eCIRCLE_ fFRONT_ gDOUBLE gSINGLE dZIGZAG_ eLARGE eMEDIUM eSMALL bNECK",
    "bNOSE_ cCONTACT cNEUTRAL cWIGGLES cWRINKLES bPARENTHESIS bROTATION- cFLOORPLANE_",
    "dALTERNATING dALTERNATING_ eHITTING_ fCEILING fFLOOR dDOUBLE dDOUBLE_ eHITTING_ fCEILING",
    "fFLOOR dSINGLE dSINGLE_ eHITTING_ fCEILING fFLOOR cWALLPLANE_ dALTERNATE dALTERNATING_",
    "eHITTING_ fCHEST fFRONT_ gWALL dDOUBLE dDOUBLE_ eHITTING_ fCHEST fFRONT_ gWALL dSINGLE",
    "dSINGLE_ eHITTING_ fCHEST fFRONT_ gWALL bROTATION_ cMODIFIER- d10 d11 d12 d13 d14 d15 d16",
    "d2 d3 d4 d5 d6 d7 d8 d9 bRUB_ cBETWEEN cMULTIPLE cSINGLE bSEMICOLON bSHOULDER_ cHIP_",
    "dPOSITIONS dSPINE cTILTING_ dFROM_ eWAIST bSQUEEZE_ cFLICK_ dALTERNATING cLARGE_ dMULTIPLE",
    "dSINGLE cSEQUENTIAL cSMALL_ dMULTIPLE dSINGLE bSTRIKE_ cBETWEEN cMULTIPLE cSINGLE bSURFACE_",
    "cBETWEEN cSYMBOLS bTEETH bTEETH_ cBITE_ dLIPS cMOVEMENT cON_ dLIPS dLIPS_ eMOVEMENT dTONGUE",
    "dTONGUE_ eMOVEMENT bTENSE_ cCHEEKS_ dHIGH dLOW dMIDDLE bTONGUE_ cCENTRE_ dINSIDE_ eMOUTH",
    "dSTICKING_ eOUT cINSIDE_ dMOUTH_ eRELAXED cLICKING_ dLIPS cMOVES_ dAGAINST_ eCHEEK",
    "cSTICKING_ dOUT_ eFAR cTIP_ dBETWEEN_ eLIPS dTOUCHING_ eINSIDE_ fMOUTH bTORSO- cFLOORPLANE_",
    "dTWISTING cWALLPLANE_ dCURVED_ eBEND dSTRAIGHT_ eSTRETCH bTOUCH_ cBETWEEN cMULTIPLE cSINGLE",
    "bTRAVEL- cFLOORPLANE_ dROTATION- eFLOORPLANE_ fALTERNATING fDOUBLE fSINGLE eWALLPLANE_",
    "fALTERNATING fDOUBLE fSINGLE dSHAKING cWALLPLANE_ dARM_ eSPIRAL_ fDOUBLE fSINGLE fTRIPLE",
    "dROTATION- eFLOORPLANE_ fALTERNATING fDOUBLE fSINGLE eWALLPLANE_ fALTERNATING fDOUBLE",
    "fSINGLE dSHAKING bUPPER_ cBODY_ dTILTING_ eFROM_ fHIP_ gJOINTS bWALLPLANE_ cSHOULDER_ dHIP_",
    "eMOVE aSIGN_ bOF_ cTHE_ dHORNS aSILHOUETTE_ bOF_ cJAPAN aSIMILAR_ bABOVE_ cGREATER- dTHAN_",
    "eABOVE_ fEQUALS_ gSIGN cLESS- dTHAN_ eABOVE_ fEQUALS_ gSIGN bMINUS_ cSIMILAR bOR_ cGREATER-",
    "dTHAN cLESS- dTHAN aSINE_ bWAVE aSINGLE- bSHIFT- c2 c3 aSINGLE_ bCHARACTER_ cINTRODUCER",
    "bGRAPHIC_ cCHARACTER_ dINTRODUCER bHIGH- cREVERSED- d9_ eQUOTATION_ fMARK bLEFT- cPOINTING_",
    "dANGLE_ eQUOTATION_ fMARK bLOW- c9_ dQUOTATION_ eMARK bRIGHT- cPOINTING_ dANGLE_",
    "eQUOTATION_ fMARK bSHIFT_ cTHREE cTWO aSINHALA_ bARCHAIC_ cDIGIT_ dEIGHT dFIVE dFOUR dNINE",
    "dONE dSEVEN dSIX dTHREE dTWO cNUMBER_ dEIGHTY dFIFTY dFORTY dNINETY dONE_ eHUNDRED",
    "eTHOUSAND dSEVENTY dSIXTY dTEN dTHIRTY dTWENTY bLETTER_ cAAYANNA cAEEYANNA cAEYANNA",
    "cAIYANNA cALPAPRAANA_ dBAYANNA dCAYANNA dDAYANNA dDDAYANNA dGAYANNA dJAYANNA dKAYANNA",
    "dPAYANNA dTAYANNA dTTAYANNA cAMBA_ dBAYANNA cAUYANNA cAYANNA cDANTAJA_ dLAYANNA dNAYANNA",
    "dSAYANNA cEEYANNA cEYANNA cFAYANNA cHAYANNA cIIYANNA cILUUYANNA cILUYANNA cIRUUYANNA",
    "cIRUYANNA cIYANNA cKANTAJA_ dNAASIKYAYA cMAHAAPRAANA_ dBAYANNA dCAYANNA dDAYANNA dDDAYANNA",
    "dGAYANNA dJAYANNA dKAYANNA dPAYANNA dTAYANNA dTTAYANNA cMAYANNA cMUURDHAJA_ dLAYANNA",
    "dNAYANNA dSAYANNA cOOYANNA cOYANNA cRAYANNA cSANYAKA_ dDAYANNA dDDAYANNA dGAYANNA dJAYANNA",
    "cTAALUJA_ dNAASIKYAYA dSANYOOGA_ eNAAKSIKYAYA dSAYANNA cUUYANNA cUYANNA cVAYANNA cYAYANNA",
    "bLITH_ cDIGIT_ dEIGHT dFIVE dFOUR dNINE dONE dSEVEN dSIX dTHREE dTWO dZERO bPUNCTUATION_",
    "cKUNDDALIYA bSIGN_ cAL- dLAKUNA cANUSVARAYA cCANDRABINDU cVISARGAYA bVOWEL_ cSIGN_ dAELA-",
    "ePILLA dDIGA_ eAEDA- fPILLA eGAETTA- fPILLA eGAYANUKITTA eIS- fPILLA eKOMBUVA ePAA- fPILLA",
    "dGAETTA- ePILLA dGAYANUKITTA dKETTI_ eAEDA- fPILLA eIS- fPILLA ePAA- fPILLA dKOMBUVA",
    "dKOMBUVA_ eHAA_ fAELA- gPILLA fDIGA_ gAELA- hPILLA fGAYANUKITTA dKOMBU_ eDEKA aSIX- bPER-",
    "cEM_ dSPACE aSIXTEEN_ bPOINTED_ cASTERISK aSIX_ bPETALLED_ cBLACK_ dAND_ eWHITE_ fFLORETTE",
    "bPOINTED_ cBLACK_ dSTAR cPINWHEEL_ dSTAR cSTAR_ dWITH_ eMIDDLE_ fDOT aSKATEBOARD aSKIER",
    "aSKI_ bAND_ cSKI_ dBOOT aSKULL aSKULL_ bAND_ cCROSSBONES aSKUNK aSLANTED_ bEQUAL_ cTO_ dOR_",
    "eGREATER- fTHAN fTHAN_ gWITH_ hDOT_ iINSIDE eLESS- fTHAN fTHAN_ gWITH_ hDOT_ iINSIDE",
    "bNORTH_ cARROW_ dWITH_ eHOOKED_ fHEAD eHORIZONTAL_ fTAIL aSLAVONIC_ bASTERISK aSLED",
    "aSLEEPING_ bACCOMMODATION bFACE bSYMBOL aSLEEPY_ bFACE aSLEUTH_ bOR_ cSPY aSLICE_ bOF_",
    "cPIZZA aSLIGHTLY_ bFROWNING_ cFACE bSMILING_ cFACE aSLOPE aSLOPING_ bLARGE_ cAND cOR aSLOTH",
    "aSLOT_ bMACHINE aSMALLER_ bTHAN bTHAN_ cOR_ dEQUAL_ eTO aSMALL_ bAIRPLANE bAMPERSAND",
    "bASTERISK bBLUE_ cDIAMOND bCOLON bCOMMA bCOMMERCIAL_ cAT bCONTAINS_ cAS_ dMEMBER cWITH_",
    "dOVERBAR dVERTICAL_ eBAR_ fAT_ gEND_ hOF_ iHORIZONTAL_ jSTROKE bDOLLAR_ cSIGN bELEMENT_ cOF",
    "cOF_ dWITH_ eOVERBAR eVERTICAL_ fBAR_ gAT_ hEND_ iOF_ jHORIZONTAL_ kSTROKE bEM_ cDASH",
    "bEQUALS_ cSIGN bEXCLAMATION_ cMARK bFULL_ cSTOP bGREATER- cTHAN_ dSIGN bHYPHEN- cMINUS",
    "bIDEOGRAPHIC_ cCOMMA bLEFT_ cCURLY_ dBRACKET cPARENTHESIS cTORTOISE_ dSHELL_ eBRACKET",
    "bLESS- cTHAN_ dSIGN bNUMBER_ cSIGN bORANGE_ cDIAMOND bPERCENT_ cSIGN bPLUS_ cSIGN",
    "bQUESTION_ cMARK bREVERSE_ cSOLIDUS bRIGHT_ cCURLY_ dBRACKET cPARENTHESIS cTORTOISE_",
    "dSHELL_ eBRACKET bROMAN_ cNUMERAL_ dEIGHT dELEVEN dFIFTY dFIVE dFIVE_ eHUNDRED dFOUR dNINE",
    "dONE dONE_ eHUNDRED eTHOUSAND dSEVEN dSIX dTEN dTHREE dTWELVE dTWO bSEMICOLON bTILDE bTWO_",
    "cDOTS_ dOVER_ eONE_ fDOT_ gPUNCTUATION bVEE_ cWITH_ dUNDERBAR aSMASH_ bPRODUCT aSMILE",
    "aSMILING_ bCAT_ cFACE_ dWITH_ eHEART- fSHAPED_ gEYES eOPEN_ fMOUTH bFACE_ cWITH_ dHALO",
    "dHEART- eSHAPED_ fEYES dHORNS dOPEN_ eMOUTH eMOUTH_ fAND_ gCOLD_ hSWEAT gSMILING_ hEYES",
    "gTIGHTLY- hCLOSED_ iEYES dSMILING_ eEYES eEYES_ fAND_ gHAND_ hCOVERING_ iMOUTH gTHREE_",
    "hHEARTS dSUNGLASSES dTEAR aSMIRKING_ bFACE aSMOKING_ bSYMBOL aSNAIL aSNAKE aSNEEZING_ bFACE",
    "aSNOWBOARDER aSNOWFLAKE aSNOWMAN aSNOWMAN_ bWITHOUT_ cSNOW aSNOW_ bCAPPED_ cMOUNTAIN aSO",
    "aSOCCER_ bBALL aSOCKS aSOFTBALL aSOFTWARE- bFUNCTION_ cSYMBOL aSOFT_ bHYPHEN bICE_ cCREAM",
    "bSHELL_ cFLOPPY_ dDISK aSOGDIAN_ bCOMBINING_ cCURVE_ dABOVE dBELOW cDOT_ dABOVE dBELOW",
    "cHOOK_ dABOVE dBELOW cLONG_ dHOOK_ eBELOW cRESH_ dBELOW cSTROKE_ dBELOW cTWO_ dDOTS_ eABOVE",
    "eBELOW bINDEPENDENT_ cSHIN bLETTER_ cALEPH cAYIN cBETH cFETH cGIMEL cHE cHETH cKAPH cLAMEDH",
    "cLESH cMEM cNUN cPE cRESH- dAYIN cSADHE cSAMEKH cSHIN cTAW cWAW cYODH cZAYIN bNUMBER_ cONE",
    "cONE_ dHUNDRED cTEN cTWENTY bPUNCTUATION_ cCIRCLE_ dWITH_ eDOT cHALF_ dCIRCLE_ eWITH_ fDOT",
    "cTWO_ dCIRCLES_ eWITH_ fDOTS dVERTICAL_ eBARS eBARS_ fWITH_ gDOTS aSOH aSOLIDUS aSOLIDUS_",
    "bWITH_ cOVERBAR aSOLID_ bQUILT_ cSQUARE_ dORNAMENT dORNAMENT_ eIN_ fBLACK_ gSQUARE aSOM_",
    "bSIGN aSOON_ bWITH_ cRIGHTWARDS_ dARROW_ eABOVE aSORA_ bSOMPENG_ cDIGIT_ dEIGHT dFIVE dFOUR",
    "dNINE dONE dSEVEN dSIX dTHREE dTWO dZERO cLETTER_ dAH dBAH dCAH dDAH dEEH dEH dGAH dHAH dIH",
    "dJAH dKAH dLAH dMAE dMAH dNAH dNGAH dNYAH dOH dPAH dRAH dSAH dTAH dUH dVAH dYAH aSOS",
    "aSOUND_ bRECORDING_ cCOPYRIGHT aSOUTH_ bEAST_ cARROW cARROW_ dAND_ eSOUTH_ fWEST_ gARROW",
    "dCROSSING_ eNORTH_ fEAST_ gARROW dTO_ eCORNER dWITH_ eHOOK cBLACK_ dARROW cDOUBLE_ dARROW",
    "cPOINTING_ dBUD dLEAF dVINE_ eLEAF cSANS- dSERIF_ eARROW cTRIANGLE- dHEADED_ eARROW eARROW_",
    "fTO_ gBAR cWHITE_ dARROW bWEST_ cARROW cARROW_ dAND_ eNORTH_ fWEST_ gARROW dWITH_ eHOOK",
    "cBLACK_ dARROW cDOUBLE_ dARROW cPOINTING_ dBUD dLEAF dVINE_ eLEAF cSANS- dSERIF_ eARROW",
    "cTRIANGLE- dHEADED_ eARROW eARROW_ fTO_ gBAR cWHITE_ dARROW aSOYOMBO_ bCLUSTER- cINITIAL_",
    "dLETTER_ eLA eRA eSA eSHA bFINAL_ cCONSONANT_ dSIGN_ e- fA eB eD eG eK eL eM eN eNG eR eS",
    "eSH bGEMINATION_ cMARK bHEAD_ cMARK_ dWITH_ eMOON_ fAND_ gSUN gSUN_ hAND_ iFLAME iTRIPLE_",
    "jFLAME bLETTER_ c- dA cA cBA cBHA cCA cCHA cDA cDDA cDDHA cDHA cDZA cGA cGHA cHA cJA cJHA",
    "cKA cKHA cKSSA cLA cMA cNA cNGA cNNA cNYA cPA cPHA cRA cSA cSHA cSSA cTA cTHA cTSA cTSHA",
    "cTTA cTTHA cVA cYA cZA cZHA bMARK_ cDOUBLE_ dSHAD cPLUTA cSHAD cTSHEG bSIGN_ cANUSVARA",
    "cJIHVAMULIYA cUPADHMANIYA cVISARGA bSUBJOINER bTERMINAL_ cMARK- d1 d2 bVOWEL_ cLENGTH_",
    "dMARK cSIGN_ dAI dAU dE dI dO dOE dU dUE dVOCALIC_ eL eR aSP aSPA aSPACE aSPAGHETTI",
    "aSPARKLE aSPARKLES aSPARKLING_ bHEART aSPEAK- bNO- cEVIL_ dMONKEY aSPEAKER aSPEAKER_ bWITH_",
    "cCANCELLATION_ dSTROKE cONE_ dSOUND_ eWAVE cTHREE_ dSOUND_ eWAVES aSPEAKING_ bHEAD_ cIN_",
    "dSILHOUETTE aSPEECH_ bBALLOON aSPEEDBOAT aSPESMILO_ bSIGN aSPHERICAL_ bANGLE bANGLE_",
    "cOPENING_ dLEFT dUP aSPIDER aSPIDER_ bWEB aSPIRAL_ bCALENDAR_ cPAD bNOTE_ cPAD bSHELL",
    "aSPLASHING_ bSWEAT_ cSYMBOL aSPONGE aSPOOL_ bOF_ cTHREAD aSPOON aSPORTS_ bMEDAL aSPOUTING_",
    "bWHALE aSQUARED_ bASTERISK bCJK_ cUNIFIED_ dIDEOGRAPH- e4E00 e4E09 e4E2D e4E8C e4EA4 e518D",
    "e521D e524D e5272 e53CC e53F3 e5408 e5439 e55B6 e58F0 e591A e5929 e5B57 e5DE6 e5F8C e624B",
    "e6253 e6295 e6307 e6355 e6599 e65B0 e6620 e6708 e6709 e6E80 e6F14 e7121 e751F e7533 e7981",
    "e7A7A e7D42 e89E3 e8CA9 e8D70 e904A e914D bCL bCOOL bDOT_ cOPERATOR bEIGHT_ cK bFALLING_",
    "cDIAGONAL_ dSLASH bFIVE_ cPOINT_ dONE bFOUR_ cDOT_ dPUNCTUATION cK bFREE bHC bHDR bHI- cRES",
    "bHV bID bKATAKANA_ cDE cKOKO cSA bKEY bLATIN_ cCAPITAL_ dLETTER_ eA eB eC eD eE eF eG eH eI",
    "eJ eK eL eM eN eO eP eQ eR eS eT eU eV eW eX eY eZ cSMALL_ dLETTER_ eD bLOGICAL_ cAND cOR",
    "bLOSSLESS bMINUS bMV bNEW bNG bOK bONE_ cHUNDRED_ dTWENTY_ eP bPLUS bPPV bRISING_",
    "cDIAGONAL_ dSLASH bSALTIRE bSD bSECOND_ cSCREEN bSEVEN_ cPOINT_ dONE bSHV bSIXTY_ cP",
    "bSMALL_ cCIRCLE bSOS bSQUARE bSS bTHREE_ cD bTIMES bTWENTY- cTWO_ dPOINT_ eTWO bTWO_ cK",
    "bUHD bUP_ cWITH_ dEXCLAMATION_ eMARK bVOD bVS bWC aSQUARE_ bAARU bAM bANPEA bAPAATO bARUHUA",
    "bAU bA_ cOVER_ dM bBAARERU bBAR bBEETA bBIRU bBORUTO bBQ bBUSSYERU bCAL bCAP bCC bCD bCM",
    "bCM_ cCUBED cSQUARED bCO bCORPORATION bCUP bC_ cOVER_ dKG bDA bDAASU bDB bDESI bDJ bDL bDM",
    "bDM_ cCUBED cSQUARED bDORU bEEKAA bERA_ cNAME_ dHEISEI dMEIZI dREIWA dSYOUWA dTAISYOU bERG",
    "bESUKUUDO bEV bFM bFOOT bFOUR_ cCORNERS bGAL bGANMA bGARON bGB bGHZ bGIGA bGINII bGIRUDAA",
    "bGPA bGURAMU bGURAMUTON bGY bHA bHAITU bHEKUTAARU bHERUTU bHG bHIRAGANA_ cHOKA bHON bHOON",
    "bHOORU bHP bHPA bHUARADDO bHUIITO bHURAN bHZ bIMAGE_ cOF cOF_ dOR_ eEQUAL_ fTO eNOT_",
    "fEQUAL_ gTO bIN bININGU bINTI bIU bKA bKAIRI bKARATTO bKARORII bKB bKCAL bKEESU bKG bKHZ",
    "bKIRO bKIROGURAMU bKIROMEETORU bKIROWATTO bKK bKL bKM bKM_ cCAPITAL cCUBED cSQUARED bKOOPO",
    "bKORUNA bKPA bKT bKUROONE bKURUZEIRO bKV bKW bKYURII bK_ cOHM bLEFT_ cOPEN_ dBOX_ eOPERATOR",
    "bLM bLN bLOG bLOZENGE bLX bMA bMAHHA bMAIKURO bMAIRU bMANSYON bMARUKU bMB bMB_ cSMALL",
    "bMEETORU bMEGA bMEGATON bMG bMHZ bMIKURON bMIL bMIRI bMIRIBAARU bML bMM bMM_ cCUBED",
    "cSQUARED bMOL bMPA bMS bMU_ cA cF cG cL cM cS cV cW bMV bMV_ cMEGA bMW bMW_ cMEGA bM_",
    "cCUBED cOHM cOVER_ dS dS_ eSQUARED cSQUARED bNA bNANO bNF bNM bNOTTO bNS bNV bNW bONSU",
    "bOOMU bORIGINAL_ cOF cOF_ dOR_ eEQUAL_ fTO eNOT_ fEQUAL_ gTO bOV bPA bPAASENTO bPAATU bPA_",
    "cAMPS bPC bPEEZI bPENIHI bPENSU bPESO bPF bPH bPIASUTORU bPIKO bPIKURU bPM bPOINTO bPONDO",
    "bPOSITION_ cINDICATOR bPPM bPR bPS bPV bPW bRAD bRAD_ cOVER_ dS dS_ eSQUARED bREMU",
    "bRENTOGEN bRIGHT_ cOPEN_ dBOX_ eOPERATOR bRIRA bRITTORU bROOT bRUPII bRUUBURU bSAIKURU",
    "bSANTIIMU bSENTI bSENTO bSIRINGU bSR bSV bTARGET bTHZ bTON bUON bV_ cOVER_ dM bWATTO bWB",
    "bWITH_ cBOTTOM_ dHALF_ eBLACK cCONTOURED_ dOUTLINE cDIAGONAL_ dCROSSHATCH_ eFILL",
    "cHORIZONTAL_ dFILL cLEFT_ dHALF_ eBLACK cLOWER_ dLEFT_ eDIAGONAL_ fHALF_ gBLACK dRIGHT_",
    "eDIAGONAL_ fHALF_ gBLACK cORTHOGONAL_ dCROSSHATCH_ eFILL cRIGHT_ dHALF_ eBLACK cTOP_ dHALF_",
    "eBLACK cUPPER_ dLEFT_ eDIAGONAL_ fHALF_ gBLACK eTO_ fLOWER_ gRIGHT_ hFILL dRIGHT_",
    "eDIAGONAL_ fHALF_ gBLACK eTO_ fLOWER_ gLEFT_ hFILL cVERTICAL_ dFILL bYAADO bYAARU bYUAN",
    "aSQUAT_ bBLACK_ cRIGHTWARDS_ dARROW aSQUID aSS2 aSS3 aSSA aST aSTADIUM aSTAFF_ bOF_",
    "cAESCULAPIUS cHERMES aSTAMPED_ bENVELOPE aSTANDING_ bPERSON aSTART_ bOF_ cGUARDED_ dAREA",
    "cHEADING cPROTECTED_ dAREA cSELECTED_ dAREA cSTRING cTEXT aSTAR_ bAND_ cCRESCENT bEQUALS",
    "bOF_ cDAVID bOPERATOR bWITH_ cLEFT_ dHALF_ eBLACK cRIGHT_ dHALF_ eBLACK aSTATION aSTATUE_",
    "bOF_ cLIBERTY aSTEAMING_ bBOWL aSTEAM_ bLOCOMOTIVE aSTENOGRAPHIC_ bFULL_ cSTOP aSTETHOSCOPE",
    "aSTICK_ bFIGURE bFIGURE_ cLEANING_ dLEFT dRIGHT cWITH_ dARMS_ eRAISED dDRESS aSTOCK_ bCHART",
    "aSTOPWATCH aSTRAIGHTNESS aSTRAIGHT_ bRULER aSTRAWBERRY aSTRESS_ bOUTLINED_ cWHITE_ dSTAR",
    "aSTRICTLY_ bEQUIVALENT_ cTO aSTRING_ bTERMINATOR aSTS aSTUDIO_ bMICROPHONE aSTUFFED_",
    "bFLATBREAD aSTUPA aSTX aSUB aSUBSCRIPT_ bEIGHT bEQUALS_ cSIGN bFIVE bFOUR bLEFT_",
    "cPARENTHESIS bMINUS bNINE bONE bPLUS_ cSIGN bRIGHT_ cPARENTHESIS bSEVEN bSIX bTHREE bTWO",
    "bZERO aSUBSET_ bABOVE_ cRIGHTWARDS_ dARROW cSUBSET cSUPERSET bOF bOF_ cABOVE_ dALMOST_",
    "eEQUAL_ fTO dEQUALS_ eSIGN dNOT_ eEQUAL_ fTO dTILDE_ eOPERATOR cOR_ dEQUAL_ eTO eTO_ fWITH_",
    "gDOT_ hABOVE cWITH_ dNOT_ eEQUAL_ fTO bWITH_ cDOT cMULTIPLICATION_ dSIGN_ eBELOW cPLUS_",
    "dSIGN_ eBELOW aSUBSTITUTE aSUCCEEDS aSUCCEEDS_ bABOVE_ cALMOST_ dEQUAL_ eTO cEQUALS_ dSIGN",
    "cNOT_ dALMOST_ eEQUAL_ fTO dEQUAL_ eTO cSINGLE- dLINE_ eEQUALS_ fSIGN eNOT_ fEQUAL_ gTO",
    "bBUT_ cNOT_ dEQUIVALENT_ eTO bOR_ cEQUAL_ dTO cEQUIVALENT_ dTO bUNDER_ cRELATION",
    "aSUMMATION_ bBOTTOM bTOP bWITH_ cINTEGRAL aSUN aSUNDANESE_ bAVAGRAHA bCONSONANT_ cSIGN_",
    "dPAMINGKAL dPANYAKRA dPANYIKU dPASANGAN_ eMA eWA bDIGIT_ cEIGHT cFIVE cFOUR cNINE cONE",
    "cSEVEN cSIX cTHREE cTWO cZERO bLETTER_ cA cAE cBA cBHA cCA cDA cE cEU cFA cFINAL_ dK dM cGA",
    "cHA cI cJA cKA cKHA cLA cLEU cMA cNA cNGA cNYA cO cPA cQA cRA cREU cSA cSYA cTA cU cVA cWA",
    "cXA cYA cZA bPUNCTUATION_ cBINDU_ dBA_ eSATANGA dCAKRA dDA_ eSATANGA dKA_ eSATANGA dLEU_",
    "eSATANGA dPANGLONG dPURNAMA dSURYA bSIGN_ cPAMAAEH cPANGLAYAR cPANGWISAD cPANYECEK cVIRAMA",
    "bVOWEL_ cSIGN_ dPAMEPET dPANAELAENG dPANEULEUNG dPANGHULU dPANOLONG dPANYUKU aSUNFLOWER",
    "aSUNRISE aSUNRISE_ bOVER_ cMOUNTAINS aSUNSET_ bOVER_ cBUILDINGS aSUN_ bBEHIND_ cCLOUD",
    "bWITH_ cFACE aSUPERHERO aSUPERSCRIPT_ bEIGHT bEQUALS_ cSIGN bFIVE bFOUR bLATIN_ cSMALL_",
    "dLETTER_ eI eN bLEFT_ cPARENTHESIS bMINUS bNINE bONE bPLUS_ cSIGN bRIGHT_ cPARENTHESIS",
    "bSEVEN bSIX bTHREE bTWO bZERO aSUPERSET_ bABOVE_ cLEFTWARDS_ dARROW cSUBSET cSUPERSET",
    "bBESIDE_ cAND_ dJOINED_ eBY_ fDASH_ gWITH_ hSUBSET cSUBSET bOF bOF_ cABOVE_ dALMOST_",
    "eEQUAL_ fTO dEQUALS_ eSIGN dNOT_ eEQUAL_ fTO dTILDE_ eOPERATOR cOR_ dEQUAL_ eTO eTO_ fWITH_",
    "gDOT_ hABOVE cWITH_ dNOT_ eEQUAL_ fTO bPRECEDING_ cSOLIDUS bWITH_ cDOT cMULTIPLICATION_",
    "dSIGN_ eBELOW cPLUS_ dSIGN_ eBELOW aSUPERVILLAIN aSURFACE_ bINTEGRAL aSURFER aSUSHI",
    "aSUSPENSION_ bRAILWAY aSWAN aSWASH_ bAMPERSAND_ cORNAMENT aSWIMMER aSWUNG_ bDASH aSYLOTI_",
    "bNAGRI_ cLETTER_ dA dBHO dBO dCHO dCO dDDHO dDDO dDHO dDO dE dGHO dGO dHO dI dJHO dJO dKHO",
    "dKO dLO dMO dNO dO dPHO dPO dRO dRRO dSO dTHO dTO dTTHO dTTO dU cPOETRY_ dMARK- e1 e2 e3 e4",
    "cSIGN_ dALTERNATE_ eHASANTA dANUSVARA dDVISVARA dHASANTA cVOWEL_ dSIGN_ eA eE eI eOO eU",
    "aSYMBOL_ bFOR_ cACKNOWLEDGE cBACKSPACE cBELL cCANCEL cCARRIAGE_ dRETURN cDATA_ dLINK_",
    "eESCAPE cDELETE cDELETE_ dFORM_ eTWO cDEVICE_ dCONTROL_ eFOUR eONE eTHREE eTWO cEND_ dOF_",
    "eMEDIUM eTEXT eTRANSMISSION eTRANSMISSION_ fBLOCK cENQUIRY cESCAPE cFILE_ dSEPARATOR cFORM_",
    "dFEED cGROUP_ dSEPARATOR cHORIZONTAL_ dTABULATION cLINE_ dFEED cMARKS_ dCHAPTER cNEGATIVE_",
    "dACKNOWLEDGE cNEWLINE cNULL cRECORD_ dSEPARATOR cSAMARITAN_ dSOURCE cSHIFT_ dIN dOUT cSPACE",
    "cSTART_ dOF_ eHEADING eTEXT cSUBSTITUTE cSUBSTITUTE_ dFORM_ eTWO cSYNCHRONOUS_ dIDLE cTYPE_",
    "dA_ eELECTRONICS cUNIT_ dSEPARATOR cVERTICAL_ dTABULATION aSYMMETRY aSYN aSYNAGOGUE",
    "aSYNCHRONOUS_ bIDLE aSYRIAC_ bABBREVIATION_ cMARK bBARREKH bCOLON_ cSKEWED_ dLEFT dRIGHT",
    "bCONTRACTION bDOTTED_ cZLAMA_ dANGULAR dHORIZONTAL bEND_ cOF_ dPARAGRAPH bESASA_ cABOVE",
    "cBELOW bFEMININE_ cDOT bHARKLEAN_ cASTERISCUS cMETOBELUS cOBELUS bHBASA- cESASA_ dDOTTED",
    "bHBASA_ cABOVE cBELOW bHORIZONTAL_ cCOLON bLETTER_ cALAPH cBETH cDALATH cDOTLESS_ dDALATH_",
    "eRISH cE cFINAL_ dSEMKATH cGAMAL cGAMAL_ dGARSHUNI cHE cHETH cKAPH cLAMADH cMALAYALAM_ dBHA",
    "dJA dLLA dLLLA dNGA dNNA dNNNA dNYA dRA dSSA dTTA cMIM cNUN cPE cPERSIAN_ dBHETH dDHALATH",
    "dGHAMAL cQAPH cREVERSED_ dPE cRISH cSADHE cSEMKATH cSHIN cSOGDIAN_ dFE dKHAPH dZHAIN",
    "cSUPERSCRIPT_ dALAPH cTAW cTETH cTETH_ dGARSHUNI cWAW cYUDH cYUDH_ dHE cZAIN bMUSIC",
    "bOBLIQUE_ cLINE_ dABOVE dBELOW bPTHAHA_ cABOVE cBELOW cDOTTED bQUSHSHAYA bRBASA_ cABOVE",
    "cBELOW bRUKKAKHA bRWAHA bSUBLINEAR_ cCOLON cCOLON_ dSKEWED_ eLEFT eRIGHT cFULL_ dSTOP",
    "bSUPRALINEAR_ cCOLON cCOLON_ dSKEWED_ eLEFT cFULL_ dSTOP bTHREE_ cDOTS_ dABOVE dBELOW bTWO_",
    "cVERTICAL_ dDOTS_ eABOVE eBELOW bZQAPHA_ cABOVE cBELOW cDOTTED aSYRINGE aS_ bIN_ cTRIANGLE"]

end GoMetrics.Text.CharName
