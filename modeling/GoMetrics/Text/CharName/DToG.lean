/-!
Names of characters that begin with the letters D to G, as a tree of their words (Unicode 14).
-/

namespace GoMetrics.Text.CharName

def namesDToG : List String :=
  ["aDAGGER aDAGGER_ bKNIFE bWITH_ cLEFT_ dGUARD cRIGHT_ dGUARD aDALET_ bSYMBOL aDANCER aDANGO",
    "aDARK_ bSHADE bSUNGLASSES aDASHED_ bLOW_ cLINE bOVERLINE bTRIANGLE- cHEADED_ dRIGHTWARDS_",
    "eARROW aDASH_ bSYMBOL bWITH_ cLEFT_ dUPTURN aDATA_ bLINK_ cESCAPE aDC1 aDC2 aDC3 aDC4 aDCS",
    "aDEAF_ bPERSON aDECIDUOUS_ bTREE aDECIMAL_ bEXPONENT_ cSYMBOL bSEPARATOR_ cKEY_ dSYMBOL",
    "aDECREASE_ bFONT_ cSIZE_ dSYMBOL aDEER aDEGREE_ bCELSIUS bFAHRENHEIT bSIGN aDEL aDELETE",
    "aDELIVERY_ bTRUCK aDELTA_ bEQUAL_ cTO aDENTISTRY_ bSYMBOL_ cLIGHT_ dDOWN_ eAND_ fHORIZONTAL",
    "fHORIZONTAL_ gWITH_ hCIRCLE hTRIANGLE hWAVE dUP_ eAND_ fHORIZONTAL fHORIZONTAL_ gWITH_",
    "hCIRCLE hTRIANGLE hWAVE dVERTICAL_ eAND_ fBOTTOM_ gLEFT gRIGHT fTOP_ gLEFT gRIGHT fWAVE",
    "eWITH_ fCIRCLE fTRIANGLE aDEPARTMENT_ bSTORE aDERELICT_ bHOUSE_ cBUILDING aDESCENDING_",
    "bNODE aDESERET_ bCAPITAL_ cLETTER_ dAY dBEE dCHEE dDEE dEF dEL dEM dEN dENG dER dES dESH",
    "dETH dEW dGAY dH dJEE dKAY dLONG_ eA eAH eE eI eO eOO dOI dOW dPEE dSHORT_ eA eAH eE eI eO",
    "eOO dTEE dTHEE dVEE dWU dYEE dZEE dZHEE bSMALL_ cLETTER_ dAY dBEE dCHEE dDEE dEF dEL dEM",
    "dEN dENG dER dES dESH dETH dEW dGAY dH dJEE dKAY dLONG_ eA eAH eE eI eO eOO dOI dOW dPEE",
    "dSHORT_ eA eAH eE eI eO eOO dTEE dTHEE dVEE dWU dYEE dZEE dZHEE aDESERT aDESERT_ bISLAND",
    "aDESKTOP_ bCOMPUTER bWINDOW aDEVANAGARI_ bABBREVIATION_ cSIGN bACUTE_ cACCENT bCARET bDANDA",
    "bDIGIT_ cEIGHT cFIVE cFOUR cNINE cONE cSEVEN cSIX cTHREE cTWO cZERO bDOUBLE_ cDANDA bGAP_",
    "cFILLER bGRAVE_ cACCENT bHEADSTROKE bJAIN_ cOM bLETTER_ cA cAA cAI cAU cAW cAY cBA cBBA",
    "cBHA cCA cCANDRA_ dA dE dO cCHA cDA cDDA cDDDA cDDDHA cDDHA cDHA cE cFA cGA cGGA cGHA cGHHA",
    "cGLOTTAL_ dSTOP cHA cHEAVY_ dYA cI cII cJA cJHA cJJA cKA cKHA cKHHA cLA cLLA cLLLA cMA",
    "cMARWARI_ dDDA cNA cNGA cNNA cNNNA cNYA cO cOE cOOE cPA cPHA cQA cRA cRHA cRRA cSA cSHA",
    "cSHORT_ dA dE dO cSSA cTA cTHA cTTA cTTHA cU cUE cUU cUUE cVA cVOCALIC_ dL dLL dR dRR cYA",
    "cYYA cZA cZHA bOM bSIGN_ cANUSVARA cAVAGRAHA cCANDRABINDU cCANDRABINDU_ dAVAGRAHA dTHREE",
    "dTWO dVIRAMA cDOUBLE_ dCANDRABINDU_ eVIRAMA cHIGH_ dSPACING_ eDOT cINVERTED_ dCANDRABINDU",
    "cNUKTA cPUSHPIKA cSIDDHAM cSPACING_ dCANDRABINDU cVIRAMA cVISARGA bSTRESS_ cSIGN_ dANUDATTA",
    "dUDATTA bVOWEL_ cSIGN_ dAA dAI dAU dAW dAY dCANDRA_ eE eLONG_ fE eO dE dI dII dO dOE dOOE",
    "dPRISHTHAMATRA_ eE dSHORT_ eE eO dU dUE dUU dUUE dVOCALIC_ eL eLL eR eRR aDEVICE_ bCONTROL_",
    "cFOUR cONE cSTRING cTHREE cTWO aDIAERESIS aDIAMETER_ bSIGN aDIAMOND_ bOPERATOR bSHAPE_",
    "cWITH_ dA_ eDOT_ fINSIDE bTARGET bWITH_ cBOTTOM_ dHALF_ eBLACK cLEFT_ dHALF_ eBLACK cRIGHT_",
    "dHALF_ eBLACK cTOP_ dHALF_ eBLACK aDIESEL_ bLOCOMOTIVE aDIE_ bFACE- c1 c2 c3 c4 c5 c6",
    "aDIFFERENCE_ bBETWEEN aDIGIT_ bEIGHT bEIGHT_ cCOMMA cFULL_ dSTOP bFIVE bFIVE_ cCOMMA cFULL_",
    "dSTOP bFOUR bFOUR_ cCOMMA cFULL_ dSTOP bNINE bNINE_ cCOMMA cFULL_ dSTOP bONE bONE_ cCOMMA",
    "cFULL_ dSTOP bSEVEN bSEVEN_ cCOMMA cFULL_ dSTOP bSIX bSIX_ cCOMMA cFULL_ dSTOP bTHREE",
    "bTHREE_ cCOMMA cFULL_ dSTOP bTWO bTWO_ cCOMMA cFULL_ dSTOP bZERO bZERO_ cCOMMA cFULL_ dSTOP",
    "aDIGRAM_ bFOR_ cEARTH cEARTHLY_ dHEAVEN dHUMAN cGREATER_ dYANG dYIN cHEAVENLY_ dEARTH",
    "cHUMAN_ dEARTH cLESSER_ dYANG dYIN aDIMENSION_ bORIGIN aDINGBAT_ bCIRCLED_ cSANS- dSERIF_",
    "eDIGIT_ fEIGHT fFIVE fFOUR fNINE fONE fSEVEN fSIX fTHREE fTWO fZERO eNUMBER_ fTEN",
    "bNEGATIVE_ cCIRCLED_ dDIGIT_ eEIGHT eFIVE eFOUR eNINE eONE eSEVEN eSIX eTHREE eTWO dNUMBER_",
    "eTEN dSANS- eSERIF_ fDIGIT_ gEIGHT gFIVE gFOUR gNINE gONE gSEVEN gSIX gTHREE gTWO gZERO",
    "fNUMBER_ gTEN aDIRECT_ bCURRENT_ cSYMBOL_ dFORM_ eTWO bHIT aDISABLED_ bCAR aDISAPPOINTED_",
    "bBUT_ cRELIEVED_ dFACE bFACE aDISCONTINUOUS_ bUNDERLINE_ cSYMBOL aDISGUISED_ bFACE aDITTO_",
    "bMARK aDIVES_ bAKURU_ cDIGIT_ dEIGHT dFIVE dFOUR dNINE dONE dSEVEN dSIX dTHREE dTWO dZERO",
    "cDOUBLE_ dDANDA cEND_ dOF_ eTEXT_ fMARK cGAP_ dFILLER cINITIAL_ dRA cLETTER_ dA dAA dBA",
    "dBHA dCA dCHA dDA dDDA dDDHA dDHA dE dGA dGHA dHA dI dII dJA dKA dKHA dLA dLLA dMA dNA dNGA",
    "dNNA dNYA dO dPA dPHA dRA dSA dSHA dSSA dTA dTHA dTTA dU dUU dVA dYA dYYA dZA cMEDIAL_ dRA",
    "dYA cPREFIXED_ dNASAL_ eSIGN cSIGN_ dANUSVARA dCANDRABINDU dHALANTA dNUKTA cVIRAMA cVOWEL_",
    "dSIGN_ eAA eAI eE eI eII eO eU eUU aDIVIDES aDIVING_ bMASK aDIVISION_ bSIGN bSLASH bTIMES",
    "aDIVORCE_ bSYMBOL aDIYA_ bLAMP aDIZZY_ bFACE bSYMBOL aDLE aDNA_ bDOUBLE_ cHELIX aDOCUMENT",
    "aDOCUMENT_ bWITH_ cPICTURE cTEXT cTEXT_ dAND_ ePICTURE aDODO aDOES_ bNOT_ cCONTAIN_ dAS_",
    "eMEMBER eNORMAL_ fSUBGROUP fSUBGROUP_ gOR_ hEQUAL cDIVIDE cDIVIDE_ dWITH_ eREVERSED_",
    "fNEGATION_ gSLASH cFORCE cPRECEDE cPRECEDE_ dOR_ eEQUAL cPROVE cSUCCEED cSUCCEED_ dOR_",
    "eEQUAL aDOG aDOGRA_ bABBREVIATION_ cSIGN bLETTER_ cA cAA cAI cAU cBA cBHA cCA cCHA cDA cDDA",
    "cDDHA cDHA cE cGA cGHA cHA cI cII cJA cJHA cKA cKHA cLA cMA cNA cNGA cNNA cNYA cO cPA cPHA",
    "cRA cRRA cSA cSHA cSSA cTA cTHA cTTA cTTHA cU cUU cVA cYA bSIGN_ cANUSVARA cNUKTA cVIRAMA",
    "cVISARGA bVOWEL_ cSIGN_ dAA dAI dAU dE dI dII dO dU dUU dVOCALIC_ eR eRR aDOG_ bFACE",
    "aDOLLAR_ bSIGN aDOLPHIN aDOMINO_ bTILE_ cHORIZONTAL- d00- e00 e01 e02 e03 e04 e05 e06 d01-",
    "e00 e01 e02 e03 e04 e05 e06 d02- e00 e01 e02 e03 e04 e05 e06 d03- e00 e01 e02 e03 e04 e05",
    "e06 d04- e00 e01 e02 e03 e04 e05 e06 d05- e00 e01 e02 e03 e04 e05 e06 d06- e00 e01 e02 e03",
    "e04 e05 e06 cHORIZONTAL_ dBACK cVERTICAL- d00- e00 e01 e02 e03 e04 e05 e06 d01- e00 e01 e02",
    "e03 e04 e05 e06 d02- e00 e01 e02 e03 e04 e05 e06 d03- e00 e01 e02 e03 e04 e05 e06 d04- e00",
    "e01 e02 e03 e04 e05 e06 d05- e00 e01 e02 e03 e04 e05 e06 d06- e00 e01 e02 e03 e04 e05 e06",
    "cVERTICAL_ dBACK aDONG_ bSIGN aDOOR aDOTTED_ bCIRCLE bCROSS bFENCE bLINE_ cFACE bOBELOS",
    "bRIGHT- cPOINTING_ dANGLE bSOLIDUS bSQUARE bTRANSPOSITION_ cMARKER aDOT_ bABOVE bMINUS",
    "bOPERATOR bPLUS aDOUBLE- bENDED_ cMULTIMAP bLINE_ cEQUAL_ dTO_ eOR_ fGREATER- gTHAN fLESS-",
    "gTHAN cSLANTED_ dEQUAL_ eTO_ fOR_ gGREATER- hTHAN gLESS- hTHAN dGREATER- eTHAN_ fOR_",
    "gEQUAL_ hTO dLESS- eTHAN_ fOR_ gEQUAL_ hTO bSTRUCK_ cCAPITAL_ dC dGAMMA dH dN dP dPI dQ dR",
    "dZ cITALIC_ dCAPITAL_ eD dSMALL_ eD eE eI eJ cN- dARY_ eSUMMATION cSMALL_ dGAMMA dPI",
    "aDOUBLED_ bFEMALE_ cSIGN bMALE_ cSIGN bSYMBOL aDOUBLE_ bACUTE_ cACCENT bCIRCLED_ cDIGIT_",
    "dEIGHT dFIVE dFOUR dNINE dONE dSEVEN dSIX dTHREE dTWO cNUMBER_ dTEN bCOLON_ cEQUAL bCURLY_",
    "cLOOP bDAGGER bDOWN_ cTACK bEXCLAMATION_ cMARK bHIGH- cREVERSED- d9_ eQUOTATION_ fMARK",
    "bHYPHEN bINTEGRAL bINTERSECTION bLEFT_ cARC_ dGREATER- eTHAN_ fBRACKET bLOGICAL_ cAND cOR",
    "bLOW- c9_ dQUOTATION_ eMARK cREVERSED- d9_ eQUOTATION_ fMARK bLOW_ cLINE bNESTED_ cGREATER-",
    "dTHAN cLESS- dTHAN dTHAN_ eWITH_ fUNDERBAR bOBLIQUE_ cHYPHEN bPLUS bPRECEDES bPRIME bPRIME_",
    "cQUOTATION_ dMARK bQUESTION_ cMARK bRIGHT_ cARC_ dLESS- eTHAN_ fBRACKET bSOLIDUS_ cOPERATOR",
    "bSQUARE_ cINTERSECTION cUNION bSTACKED_ cCOMMA bSTROKE_ cNOT_ dSIGN bSUBSET bSUCCEEDS",
    "bSUPERSET bSUSPENSION_ cMARK bUNION bUP_ cTACK bVERTICAL_ cBAR cBAR_ dDOUBLE_ eLEFT_",
    "fTURNSTILE eRIGHT_ fTURNSTILE dLEFT_ eTURNSTILE cLINE bWAVY_ cOVERLINE aDOUGHNUT aDOVE_",
    "bOF_ cPEACE aDOWN- bPOINTING_ cRED_ dTRIANGLE cSMALL_ dRED_ eTRIANGLE cTRIANGLE_ dWITH_",
    "eLEFT_ fHALF_ gBLACK eRIGHT_ fHALF_ gBLACK aDOWNWARDS_ bANCORA bARROW bARROW_ cAND_ dRIGHT_",
    "eONE_ fEIGHTH_ gBLOCK cFROM_ dBAR cLEFTWARDS_ dOF_ eUPWARDS_ fARROW cTO_ dBAR cWITH_",
    "dCORNER_ eLEFTWARDS dDOUBLE_ eSTROKE dEQUILATERAL_ eARROWHEAD dHORIZONTAL_ eSTROKE dLARGE_",
    "eTRIANGLE_ fARROWHEAD dMEDIUM_ eTRIANGLE_ fARROWHEAD dNOTCHED_ eTAIL dSMALL_ eEQUILATERAL_",
    "fARROWHEAD eTRIANGLE_ fARROWHEAD dTIP_ eLEFTWARDS eRIGHTWARDS bBLACK_ cARROW cCIRCLED_",
    "dWHITE_ eARROW bCOMPRESSED_ cARROW bDASHED_ cARROW bDOUBLE_ cARROW bFINGER- cPOST_ dARROW",
    "bHARPOON_ cWITH_ dBARB_ eLEFTWARDS eLEFT_ fBESIDE_ gDOWNWARDS_ hHARPOON_ iWITH_ jBARB_",
    "kRIGHT gUPWARDS_ hHARPOON_ iWITH_ jBARB_ kRIGHT fFROM_ gBAR fTO_ gBAR eRIGHTWARDS eRIGHT_",
    "fFROM_ gBAR fTO_ gBAR bHEAVY_ cARROW cCOMPRESSED_ dARROW bPAIRED_ cARROWS bQUADRUPLE_",
    "cARROW bROCKET bSANS- cSERIF_ dARROW bSQUARED_ cARROW bTRIANGLE- cHEADED_ dARROW dARROW_",
    "eLEFTWARDS_ fOF_ gUPWARDS_ hTRIANGLE- iHEADED_ jARROW eTO_ fBAR eWITH_ fBOLD_ gSHAFT",
    "fDOUBLE_ gHORIZONTAL_ hSTROKE fHEAVY_ gSHAFT fLONG_ gTIP_ hLEFTWARDS hRIGHTWARDS fMEDIUM_",
    "gSHAFT fNARROW_ gSHAFT fVERY_ gHEAVY_ hSHAFT dDASHED_ eARROW dPAIRED_ eARROWS dZIGZAG_",
    "eARROW bTRIANGLE_ cARROWHEAD bTRIPLE_ cARROW bTWO- cHEADED_ dARROW_ eWITH_ fTRIANGLE_",
    "gARROWHEADS bTWO_ cHEADED_ dARROW bWHITE_ cARROW cARROW_ dWITHIN_ eTRIANGLE_ fARROWHEAD",
    "bZIGZAG_ cARROW aDOWNWARD_ bFACING_ cHOOK cHOOK_ dWITH_ eDOT cNOTCHED_ dHOOK dHOOK_ eWITH_",
    "fDOT aDOWN_ bARROWHEAD bFISH_ cTAIL bRIGHT_ cDIAGONAL_ dELLIPSIS bTACK bTACK_ cWITH_",
    "dCIRCLE_ eBELOW aDO_ bNOT_ cLITTER_ dSYMBOL aDRACHMA_ bSIGN aDRAFTING_ bPOINT_ cRIGHTWARDS_",
    "dARROW aDRAGON aDRAGON_ bFACE aDRESS aDRIVE_ bSLOW_ cSIGN aDROMEDARY_ bCAMEL aDROOLING_",
    "bFACE aDROPLET aDROP_ bOF_ cBLOOD aDRUM_ bWITH_ cDRUMSTICKS aDUCK aDUMPLING aDUPLOYAN_",
    "bAFFIX_ cATTACHED_ dE_ eHOOK dI_ eHOOK dLEFT- eTO- fRIGHT_ gSECANT dSECANT dTAIL dTANGENT",
    "dTANGENT_ eHOOK cHIGH_ dACUTE dCIRCLE dDOT dGRAVE dLINE dLONG_ eGRAVE dTIGHT_ eACUTE",
    "dVERTICAL dVERTICAL_ eSECANT dWAVE cLEFT_ dHORIZONTAL_ eSECANT cLOW_ dACUTE dARROW dCIRCLE",
    "dDOT dGRAVE dLINE dLONG_ eGRAVE dTIGHT_ eACUTE dVERTICAL dVERTICAL_ eSECANT dWAVE cMID_",
    "dHORIZONTAL_ eSECANT dVERTICAL_ eSECANT cRIGHT_ dHORIZONTAL_ eSECANT bDOUBLE_ cMARK",
    "bLETTER_ cA cAOU cB cD cDH cD_ dS cE cEE cEU cF cF_ dN cG cG_ dR_ eS cH cHL cI cIE cJ cJ_",
    "dM dM_ eS dN dN_ eS dS dS_ eWITH_ fDOT dWITH_ eDOT eDOTS_ fINSIDE_ gAND_ hABOVE cK cKK cK_",
    "dM dR_ eS cL cLH cLONG_ dI dU cM cM_ dN dN_ eS dS dWITH_ eDOT cN cNASAL_ dA dI dO dU cN_ dM",
    "dM_ eS dS dWITH_ eDOT cO cOA cOOH cOU cOW cP cPERNIN_ dAM dAN cP_ dN cR cRH cROMANIAN_ dI",
    "dU cR_ dS cS cSHORT_ dI cSLOAN_ dAN dDH dEE dEH dEN dJ dON dOW dU cS_ dJ dJ_ eS dK dK_ eR",
    "dM dN dP dP_ eR dS dT dT_ eR dWITH_ eDOT eDOT_ fBELOW cT cTH cT_ dR_ eS dS cU cUH cUI cU_",
    "dN cV cVOCALIC_ dM cW cWA cWEI cWH cWI cWO cWOW cW_ dR cX cXW cYE bPUNCTUATION_ cCHINOOK_",
    "dFULL_ eSTOP bSIGN_ cO_ dWITH_ eCROSS bTHICK_ cLETTER_ dSELECTOR aDVD aE- bMAIL_ cSYMBOL",
    "aEAGLE aEAR aEARTH aEARTH_ bGLOBE_ cAMERICAS cASIA- dAUSTRALIA cEUROPE- dAFRICA bGROUND",
    "aEAR_ bOF_ cMAIZE cRICE bWITH_ cHEARING_ dAID aEAST_ bSYRIAC_ cCROSS aEDITORIAL_ bCORONIS",
    "aEGG aEGYPTIAN_ bHIEROGLYPH_ cA001 cA002 cA003 cA004 cA005 cA005A cA006 cA006A cA006B cA007",
    "cA008 cA009 cA010 cA011 cA012 cA013 cA014 cA014A cA015 cA016 cA017 cA017A cA018 cA019 cA020",
    "cA021 cA022 cA023 cA024 cA025 cA026 cA027 cA028 cA029 cA030 cA031 cA032 cA032A cA033 cA034",
    "cA035 cA036 cA037 cA038 cA039 cA040 cA040A cA041 cA042 cA042A cA043 cA043A cA044 cA045",
    "cA045A cA046 cA047 cA048 cA049 cA050 cA051 cA052 cA053 cA054 cA055 cA056 cA057 cA058 cA059",
    "cA060 cA061 cA062 cA063 cA064 cA065 cA066 cA067 cA068 cA069 cA070 cAA001 cAA002 cAA003",
    "cAA004 cAA005 cAA006 cAA007 cAA007A cAA007B cAA008 cAA009 cAA010 cAA011 cAA012 cAA013",
    "cAA014 cAA015 cAA016 cAA017 cAA018 cAA019 cAA020 cAA021 cAA022 cAA023 cAA024 cAA025 cAA026",
    "cAA027 cAA028 cAA029 cAA030 cAA031 cAA032 cB001 cB002 cB003 cB004 cB005 cB005A cB006 cB007",
    "cB008 cB009 cBEGIN_ dSEGMENT cC001 cC002 cC002A cC002B cC002C cC003 cC004 cC005 cC006 cC007",
    "cC008 cC009 cC010 cC010A cC011 cC012 cC013 cC014 cC015 cC016 cC017 cC018 cC019 cC020 cC021",
    "cC022 cC023 cC024 cD001 cD002 cD003 cD004 cD005 cD006 cD007 cD008 cD008A cD009 cD010 cD011",
    "cD012 cD013 cD014 cD015 cD016 cD017 cD018 cD019 cD020 cD021 cD022 cD023 cD024 cD025 cD026",
    "cD027 cD027A cD028 cD029 cD030 cD031 cD031A cD032 cD033 cD034 cD034A cD035 cD036 cD037",
    "cD038 cD039 cD040 cD041 cD042 cD043 cD044 cD045 cD046 cD046A cD047 cD048 cD048A cD049 cD050",
    "cD050A cD050B cD050C cD050D cD050E cD050F cD050G cD050H cD050I cD051 cD052 cD052A cD053",
    "cD054 cD054A cD055 cD056 cD057 cD058 cD059 cD060 cD061 cD062 cD063 cD064 cD065 cD066 cD067",
    "cD067A cD067B cD067C cD067D cD067E cD067F cD067G cD067H cE001 cE002 cE003 cE004 cE005 cE006",
    "cE007 cE008 cE008A cE009 cE009A cE010 cE011 cE012 cE013 cE014 cE015 cE016 cE016A cE017",
    "cE017A cE018 cE019 cE020 cE020A cE021 cE022 cE023 cE024 cE025 cE026 cE027 cE028 cE028A",
    "cE029 cE030 cE031 cE032 cE033 cE034 cE034A cE036 cE037 cE038 cEND_ dSEGMENT cF001 cF001A",
    "cF002 cF003 cF004 cF005 cF006 cF007 cF008 cF009 cF010 cF011 cF012 cF013 cF013A cF014 cF015",
    "cF016 cF017 cF018 cF019 cF020 cF021 cF021A cF022 cF023 cF024 cF025 cF026 cF027 cF028 cF029",
    "cF030 cF031 cF031A cF032 cF033 cF034 cF035 cF036 cF037 cF037A cF038 cF038A cF039 cF040",
    "cF041 cF042 cF043 cF044 cF045 cF045A cF046 cF046A cF047 cF047A cF048 cF049 cF050 cF051",
    "cF051A cF051B cF051C cF052 cF053 cG001 cG002 cG003 cG004 cG005 cG006 cG006A cG007 cG007A",
    "cG007B cG008 cG009 cG010 cG011 cG011A cG012 cG013 cG014 cG015 cG016 cG017 cG018 cG019 cG020",
    "cG020A cG021 cG022 cG023 cG024 cG025 cG026 cG026A cG027 cG028 cG029 cG030 cG031 cG032 cG033",
    "cG034 cG035 cG036 cG036A cG037 cG037A cG038 cG039 cG040 cG041 cG042 cG043 cG043A cG044",
    "cG045 cG045A cG046 cG047 cG048 cG049 cG050 cG051 cG052 cG053 cG054 cH001 cH002 cH003 cH004",
    "cH005 cH006 cH006A cH007 cH008 cHORIZONTAL_ dJOINER cI001 cI002 cI003 cI004 cI005 cI005A",
    "cI006 cI007 cI008 cI009 cI009A cI010 cI010A cI011 cI011A cI012 cI013 cI014 cI015 cINSERT_",
    "dAT_ eBOTTOM_ fEND fSTART eTOP_ fEND fSTART cK001 cK002 cK003 cK004 cK005 cK006 cK007 cK008",
    "cL001 cL002 cL002A cL003 cL004 cL005 cL006 cL006A cL007 cL008 cM001 cM001A cM001B cM002",
    "cM003 cM003A cM004 cM005 cM006 cM007 cM008 cM009 cM010 cM010A cM011 cM012 cM012A cM012B",
    "cM012C cM012D cM012E cM012F cM012G cM012H cM013 cM014 cM015 cM015A cM016 cM016A cM017",
    "cM017A cM018 cM019 cM020 cM021 cM022 cM022A cM023 cM024 cM024A cM025 cM026 cM027 cM028",
    "cM028A cM029 cM030 cM031 cM031A cM032 cM033 cM033A cM033B cM034 cM035 cM036 cM037 cM038",
    "cM039 cM040 cM040A cM041 cM042 cM043 cM044 cN001 cN002 cN003 cN004 cN005 cN006 cN007 cN008",
    "cN009 cN010 cN011 cN012 cN013 cN014 cN015 cN016 cN017 cN018 cN018A cN018B cN019 cN020 cN021",
    "cN022 cN023 cN024 cN025 cN025A cN026 cN027 cN028 cN029 cN030 cN031 cN032 cN033 cN033A cN034",
    "cN034A cN035 cN035A cN036 cN037 cN037A cN038 cN039 cN040 cN041 cN042 cNL001 cNL002 cNL003",
    "cNL004 cNL005 cNL005A cNL006 cNL007 cNL008 cNL009 cNL010 cNL011 cNL012 cNL013 cNL014 cNL015",
    "cNL016 cNL017 cNL017A cNL018 cNL019 cNL020 cNU001 cNU002 cNU003 cNU004 cNU005 cNU006 cNU007",
    "cNU008 cNU009 cNU010 cNU010A cNU011 cNU011A cNU012 cNU013 cNU014 cNU015 cNU016 cNU017",
    "cNU018 cNU018A cNU019 cNU020 cNU021 cNU022 cNU022A cO001 cO001A cO002 cO003 cO004 cO005",
    "cO005A cO006 cO006A cO006B cO006C cO006D cO006E cO006F cO007 cO008 cO009 cO010 cO010A",
    "cO010B cO010C cO011 cO012 cO013 cO014 cO015 cO016 cO017 cO018 cO019 cO019A cO020 cO020A",
    "cO021 cO022 cO023 cO024 cO024A cO025 cO025A cO026 cO027 cO028 cO029 cO029A cO030 cO030A",
    "cO031 cO032 cO033 cO033A cO034 cO035 cO036 cO036A cO036B cO036C cO036D cO037 cO038 cO039",
    "cO040 cO041 cO042 cO043 cO044 cO045 cO046 cO047 cO048 cO049 cO050 cO050A cO050B cO051",
    "cOVERLAY_ dMIDDLE cP001 cP001A cP002 cP003 cP003A cP004 cP005 cP006 cP007 cP008 cP009 cP010",
    "cP011 cQ001 cQ002 cQ003 cQ004 cQ005 cQ006 cQ007 cR001 cR002 cR002A cR003 cR003A cR003B",
    "cR004 cR005 cR006 cR007 cR008 cR009 cR010 cR010A cR011 cR012 cR013 cR014 cR015 cR016 cR016A",
    "cR017 cR018 cR019 cR020 cR021 cR022 cR023 cR024 cR025 cR026 cR027 cR028 cR029 cS001 cS002",
    "cS002A cS003 cS004 cS005 cS006 cS006A cS007 cS008 cS009 cS010 cS011 cS012 cS013 cS014",
    "cS014A cS014B cS015 cS016 cS017 cS017A cS018 cS019 cS020 cS021 cS022 cS023 cS024 cS025",
    "cS026 cS026A cS026B cS027 cS028 cS029 cS030 cS031 cS032 cS033 cS034 cS035 cS035A cS036",
    "cS037 cS038 cS039 cS040 cS041 cS042 cS043 cS044 cS045 cS046 cT001 cT002 cT003 cT003A cT004",
    "cT005 cT006 cT007 cT007A cT008 cT008A cT009 cT009A cT010 cT011 cT011A cT012 cT013 cT014",
    "cT015 cT016 cT016A cT017 cT018 cT019 cT020 cT021 cT022 cT023 cT024 cT025 cT026 cT027 cT028",
    "cT029 cT030 cT031 cT032 cT032A cT033 cT033A cT034 cT035 cT036 cU001 cU002 cU003 cU004 cU005",
    "cU006 cU006A cU006B cU007 cU008 cU009 cU010 cU011 cU012 cU013 cU014 cU015 cU016 cU017 cU018",
    "cU019 cU020 cU021 cU022 cU023 cU023A cU024 cU025 cU026 cU027 cU028 cU029 cU029A cU030 cU031",
    "cU032 cU032A cU033 cU034 cU035 cU036 cU037 cU038 cU039 cU040 cU041 cU042 cV001 cV001A",
    "cV001B cV001C cV001D cV001E cV001F cV001G cV001H cV001I cV002 cV002A cV003 cV004 cV005",
    "cV006 cV007 cV007A cV007B cV008 cV009 cV010 cV011 cV011A cV011B cV011C cV012 cV012A cV012B",
    "cV013 cV014 cV015 cV016 cV017 cV018 cV019 cV020 cV020A cV020B cV020C cV020D cV020E cV020F",
    "cV020G cV020H cV020I cV020J cV020K cV020L cV021 cV022 cV023 cV023A cV024 cV025 cV026 cV027",
    "cV028 cV028A cV029 cV029A cV030 cV030A cV031 cV031A cV032 cV033 cV033A cV034 cV035 cV036",
    "cV037 cV037A cV038 cV039 cV040 cV040A cVERTICAL_ dJOINER cW001 cW002 cW003 cW003A cW004",
    "cW005 cW006 cW007 cW008 cW009 cW009A cW010 cW010A cW011 cW012 cW013 cW014 cW014A cW015",
    "cW016 cW017 cW017A cW018 cW018A cW019 cW020 cW021 cW022 cW023 cW024 cW024A cW025 cX001",
    "cX002 cX003 cX004 cX004A cX004B cX005 cX006 cX006A cX007 cX008 cX008A cY001 cY001A cY002",
    "cY003 cY004 cY005 cY006 cY007 cY008 cZ001 cZ002 cZ002A cZ002B cZ002C cZ002D cZ003 cZ003A",
    "cZ003B cZ004 cZ004A cZ005 cZ005A cZ006 cZ007 cZ008 cZ009 cZ010 cZ011 cZ012 cZ013 cZ014",
    "cZ015 cZ015A cZ015B cZ015C cZ015D cZ015E cZ015F cZ015G cZ015H cZ015I cZ016 cZ016A cZ016B",
    "cZ016C cZ016D cZ016E cZ016F cZ016G cZ016H aEIGHTH_ bNOTE aEIGHT_ bPETALLED_ cOUTLINED_",
    "dBLACK_ eFLORETTE bPOINTED_ cBLACK_ dSTAR cPINWHEEL_ dSTAR cRECTILINEAR_ dBLACK_ eSTAR",
    "bSPOKED_ cASTERISK bTEARDROP- cSPOKED_ dPROPELLER_ eASTERISK aEJECT_ bSYMBOL aELBASAN_",
    "bLETTER_ cA cBE cCE cCHE cDE cDHE cE cEI cFE cGE cGHAMMA cGHE cGJE cHE cI cJE cKE cKHE cLE",
    "cLLE cME cNA cNDE cNE cNJE cO cPE cQE cRE cRRE cSE cSHE cTE cTHE cU cVE cXE cY cZE cZHE",
    "aELECTRICAL_ bINTERSECTION aELECTRIC_ bARROW bLIGHT_ cBULB bPLUG bTORCH aELEMENT_ bOF bOF_",
    "cOPENING_ dDOWNWARDS dUPWARDS cWITH_ dDOT_ eABOVE dLONG_ eHORIZONTAL_ fSTROKE dOVERBAR",
    "dTWO_ eHORIZONTAL_ fSTROKES dUNDERBAR dVERTICAL_ eBAR_ fAT_ gEND_ hOF_ iHORIZONTAL_ jSTROKE",
    "aELEPHANT aELEVATOR aELF aELYMAIC_ bLETTER_ cALEPH cAYIN cBETH cDALETH cGIMEL cHE cHETH",
    "cKAPH cLAMEDH cMEM cNUN cPE cQOPH cRESH cSADHE cSAMEKH cSHIN cTAW cTETH cWAW cYODH cZAYIN",
    "bLIGATURE_ cZAYIN- dYODH aEMOJI_ bCOMPONENT_ cBALD cCURLY_ dHAIR cRED_ dHAIR cWHITE_ dHAIR",
    "bMODIFIER_ cFITZPATRICK_ dTYPE- e1- f2 e3 e4 e5 e6 aEMPHASIS_ bSYMBOL aEMPTY_ bDOCUMENT",
    "bNEST bNOTE bNOTE_ cPAD cPAGE bPAGE bPAGES bSET bSET_ cWITH_ dLEFT_ eARROW_ fABOVE dOVERBAR",
    "dRIGHT_ eARROW_ fABOVE dSMALL_ eCIRCLE_ fABOVE aEM_ bDASH bQUAD bSPACE aEND_ bOF_ cGUARDED_",
    "dAREA cLINE cMEDIUM cPROOF cPROTECTED_ dAREA cSELECTED_ dAREA cTEXT cTRANSMISSION",
    "cTRANSMISSION_ dBLOCK bWITH_ cLEFTWARDS_ dARROW_ eABOVE aENQ aENQUIRY aENTER_ bSYMBOL",
    "aENVELOPE aENVELOPE_ bWITH_ cDOWNWARDS_ dARROW_ eABOVE cLIGHTNING aEN_ bDASH bQUAD bSPACE",
    "aEOL aEOM aEOT aEPA aEQUALS_ bCOLON bSIGN bSIGN_ cABOVE_ dLEFTWARDS_ eARROW dPLUS_ eSIGN",
    "dRIGHTWARDS_ eARROW dTILDE_ eOPERATOR cAND_ dSLANTED_ ePARALLEL ePARALLEL_ fWITH_ gTILDE_",
    "hABOVE cWITH_ dBUMPY_ eABOVE dDOT_ eBELOW dINFINITY_ eBELOW dTWO_ eDOTS_ fABOVE_ gAND_",
    "hTWO_ iDOTS_ jBELOW bWITH_ cASTERISK aEQUAL_ bAND_ cPARALLEL_ dTO bTO_ cBY_ dDEFINITION",
    "cOR_ dGREATER- eTHAN dLESS- eTHAN dPRECEDES dSUCCEEDS aEQUIANGULAR_ bTO aEQUIVALENT_ bTO",
    "bWITH_ cFOUR_ dDOTS_ eABOVE aERASE_ bTO_ cTHE_ dLEFT dRIGHT aERIS_ bFORM_ cONE cTWO aERROR-",
    "bBARRED_ cBLACK_ dCIRCLE dDIAMOND dSQUARE cWHITE_ dCIRCLE dDIAMOND dSQUARE aESA aESC",
    "aESCAPE aESTIMATED_ bSYMBOL aESTIMATES aETB aETHIOPIC_ bCOLON bCOMBINING_ cGEMINATION_",
    "dAND_ eVOWEL_ fLENGTH_ gMARK dMARK cVOWEL_ dLENGTH_ eMARK bCOMMA bDIGIT_ cEIGHT cFIVE cFOUR",
    "cNINE cONE cSEVEN cSIX cTHREE cTWO bFULL_ cSTOP bNUMBER_ cEIGHTY cFIFTY cFORTY cHUNDRED",
    "cNINETY cSEVENTY cSIXTY cTEN cTEN_ dTHOUSAND cTHIRTY cTWENTY bPARAGRAPH_ cSEPARATOR",
    "bPREFACE_ cCOLON bQUESTION_ cMARK bSECTION_ cMARK bSEMICOLON bSYLLABLE_ cBA cBAA cBBA cBBAA",
    "cBBE cBBEE cBBI cBBO cBBU cBE cBEE cBI cBO cBOA cBU cBWA cBWE cBWEE cBWI cCA cCAA cCCA",
    "cCCAA cCCE cCCEE cCCHA cCCHAA cCCHE cCCHEE cCCHHA cCCHHAA cCCHHE cCCHHEE cCCHHI cCCHHO",
    "cCCHHU cCCHI cCCHO cCCHU cCCI cCCO cCCU cCE cCEE cCHA cCHAA cCHE cCHEE cCHI cCHO cCHOA cCHU",
    "cCHWA cCI cCO cCOA cCU cCWA cDA cDAA cDDA cDDAA cDDE cDDEE cDDHAA cDDHE cDDHEE cDDHI cDDHO",
    "cDDHU cDDI cDDO cDDOA cDDU cDDWA cDE cDEE cDI cDO cDOA cDU cDWA cDZAA cDZE cDZEE cDZI cDZO",
    "cDZU cFA cFAA cFE cFEE cFI cFO cFU cFWA cFWE cFWEE cFWI cFYA cGA cGAA cGE cGEE cGGA cGGAA",
    "cGGE cGGEE cGGI cGGO cGGU cGGWA cGGWAA cGGWE cGGWEE cGGWI cGI cGLOTTAL_ dA dAA dE dEE dI dO",
    "dOA dU dWA cGO cGOA cGU cGURAGE_ dBWEE dBWI dFWEE dFWI dGWE dGWEE dGWI dHHWA dKWE dKWEE",
    "dKWI dMWEE dMWI dPWEE dPWI dQWE dQWEE dQWI cGWA cGWAA cGWE cGWEE cGWI cGYA cGYAA cGYE cGYEE",
    "cGYI cGYO cGYU cHA cHAA cHE cHEE cHHA cHHAA cHHE cHHEE cHHI cHHO cHHU cHHWA cHHWE cHHWEE",
    "cHHWI cHHYA cHHYAA cHHYE cHHYEE cHHYI cHHYO cHHYU cHI cHO cHOA cHU cJA cJAA cJE cJEE cJI",
    "cJO cJOA cJU cJWA cKA cKAA cKE cKEE cKI cKO cKOA cKU cKWA cKWAA cKWE cKWEE cKWI cKXA cKXAA",
    "cKXE cKXEE cKXI cKXO cKXU cKXWA cKXWAA cKXWE cKXWEE cKXWI cKYA cKYAA cKYE cKYEE cKYI cKYO",
    "cKYU cLA cLAA cLE cLEE cLI cLO cLOA cLU cLWA cMA cMAA cME cMEE cMI cMO cMOA cMU cMWA cMWE",
    "cMWEE cMWI cMYA cNA cNAA cNE cNEE cNI cNO cNOA cNU cNWA cNYA cNYAA cNYE cNYEE cNYI cNYO",
    "cNYOA cNYU cNYWA cPA cPAA cPE cPEE cPHA cPHAA cPHARYNGEAL_ dA dAA dE dEE dI dO dU cPHE",
    "cPHEE cPHI cPHO cPHOA cPHU cPHWA cPI cPO cPOA cPU cPWA cPWE cPWEE cPWI cQA cQAA cQE cQEE",
    "cQHA cQHAA cQHE cQHEE cQHI cQHO cQHU cQHWA cQHWAA cQHWE cQHWEE cQHWI cQI cQO cQOA cQU cQWA",
    "cQWAA cQWE cQWEE cQWI cQYA cQYAA cQYE cQYEE cQYI cQYO cQYU cRA cRAA cRE cREE cRI cRO cROA",
    "cRU cRWA cRYA cSA cSAA cSE cSEBATBEIT_ dBWA dFWA dMWA dPWA cSEE cSHA cSHAA cSHE cSHEE cSHI",
    "cSHO cSHOA cSHU cSHWA cSI cSO cSOA cSSA cSSAA cSSE cSSEE cSSI cSSO cSSU cSU cSWA cSZA cSZAA",
    "cSZE cSZEE cSZI cSZO cSZU cSZWA cTA cTAA cTE cTEE cTHA cTHAA cTHE cTHEE cTHI cTHO cTHOA",
    "cTHU cTHWA cTI cTO cTOA cTSA cTSAA cTSE cTSEE cTSI cTSO cTSU cTSWA cTTHAA cTTHE cTTHEE",
    "cTTHI cTTHO cTTHU cTU cTWA cTZA cTZAA cTZE cTZEE cTZI cTZO cTZOA cTZU cVA cVAA cVE cVEE cVI",
    "cVO cVU cVWA cWA cWAA cWE cWEE cWI cWO cWOA cWU cXA cXAA cXE cXEE cXI cXO cXOA cXU cXWA",
    "cXWAA cXWE cXWEE cXWI cXYA cXYAA cXYE cXYEE cXYI cXYO cXYU cYA cYAA cYE cYEE cYI cYO cYOA",
    "cYU cZA cZAA cZE cZEE cZHA cZHAA cZHE cZHEE cZHI cZHO cZHU cZHWA cZI cZO cZOA cZU cZWA cZZA",
    "cZZAA cZZE cZZEE cZZI cZZO cZZU bTONAL_ cMARK_ dCHIRET dDERET dDERET- eHIDET dDIFAT dHIDET",
    "dKENAT dKURT dRIKRIK dSHORT_ eRIKRIK dYIZET bWORDSPACE aETX aEULER_ bCONSTANT aEURO-",
    "bCURRENCY_ cSIGN aEUROPEAN_ bCASTLE bPOST_ cOFFICE aEURO_ bSIGN aEVERGREEN_ bTREE aEXCESS",
    "aEXCLAMATION_ bMARK bQUESTION_ cMARK aEXPRESSIONLESS_ bFACE aEXTENDED_ bARABIC- cINDIC_",
    "dDIGIT_ eEIGHT eFIVE eFOUR eNINE eONE eSEVEN eSIX eTHREE eTWO eZERO aEXTRATERRESTRIAL_",
    "bALIEN aEXTREMELY_ bHEAVY_ cFIVE_ dSPOKED_ eASTERISK cGREEK_ dCROSS cSALTIRE cSIX_ dSPOKED_",
    "eASTERISK cWHITE_ dCIRCLE dSQUARE aEYE aEYEGLASSES aEYES aFACE_ bHOLDING_ cBACK_ dTEARS",
    "bMASSAGE bPALM bSAVOURING_ cDELICIOUS_ dFOOD bSCREAMING_ cIN_ dFEAR bTHROWING_ cA_ dKISS",
    "bWITHOUT_ cMOUTH bWITH_ cCOLD_ dSWEAT cCOWBOY_ dHAT cDIAGONAL_ dMOUTH cFINGER_ dCOVERING_",
    "eCLOSED_ fLIPS cHEAD- dBANDAGE cLOOK_ dOF_ eTRIUMPH cMEDICAL_ dMASK cMONOCLE cNO_ dGOOD_",
    "eGESTURE cOK_ dGESTURE cONE_ dEYEBROW_ eRAISED cOPEN_ dEYES_ eAND_ fHAND_ gOVER_ hMOUTH",
    "dMOUTH dMOUTH_ eAND_ fCOLD_ gSWEAT eVOMITING cPARTY_ dHORN_ eAND_ fPARTY_ gHAT cPEEKING_",
    "dEYE cPLEADING_ dEYES cROLLING_ dEYES cSTUCK- dOUT_ eTONGUE eTONGUE_ fAND_ gTIGHTLY-",
    "hCLOSED_ iEYES gWINKING_ hEYE cTEARS_ dOF_ eJOY cTHERMOMETER cUNEVEN_ dEYES_ eAND_ fWAVY_",
    "gMOUTH aFACSIMILE_ bSIGN aFACTORY aFAIRY aFALAFEL aFALLEN_ bLEAF aFALLING_ bDIAGONAL_",
    "cCROSSING_ dNORTH_ eEAST_ fARROW dRISING_ eDIAGONAL cIN_ dWHITE_ eCIRCLE_ fIN_ gBLACK_",
    "hSQUARE aFAMILY aFARSI_ bSYMBOL aFATHER_ bCHRISTMAS aFAX_ bICON bMACHINE aFEARFUL_ bFACE",
    "aFEATHER aFEMALE_ bSIGN aFEMININE_ bORDINAL_ cINDICATOR aFENCER aFERRIS_ bWHEEL aFERRY aFF",
    "aFIELD_ bHOCKEY_ cSTICK_ dAND_ eBALL aFIGURE_ bDASH bSPACE aFILE_ bCABINET bFOLDER",
    "bSEPARATOR aFILM_ bFRAMES bPROJECTOR aFINITE_ bPART_ cINTEGRAL aFIRE aFIRECRACKER",
    "aFIREWORKS aFIREWORK_ bSPARKLER aFIRE_ bENGINE bEXTINGUISHER aFIRST_ bPLACE_ cMEDAL",
    "bQUARTER_ cMOON cMOON_ dSYMBOL dWITH_ eFACE bSTRONG_ cISOLATE aFISH aFISHEYE aFISHING_",
    "bPOLE_ cAND_ dFISH aFISH_ bCAKE_ cWITH_ dSWIRL_ eDESIGN aFISTED_ bHAND_ cSIGN aFIVE_ bDOT_",
    "cMARK cPUNCTUATION aFLAG_ bIN_ cHOLE aFLAMINGO aFLATBREAD aFLATNESS aFLAT_ bSHOE aFLEUR-",
    "bDE- cLIS aFLEXED_ bBICEPS aFLOPPY_ bDISK aFLORAL_ bHEART aFLOWER aFLOWER_ bPLAYING_ cCARDS",
    "bPUNCTUATION_ cMARK aFLUSHED_ bFACE aFLY aFLYING_ bDISC bENVELOPE bSAUCER aFOG aFOGGY",
    "aFOLDER aFONDUE aFOOT aFOOTPRINTS aFORCES aFORKED_ bPARAGRAPHOS aFORKING aFORK_ bAND_",
    "cKNIFE cKNIFE_ dWITH_ ePLATE aFORM_ bFEED aFORTUNE_ bCOOKIE aFOR_ bALL aFOUNTAIN aFOUR-",
    "bPER- cEM_ dSPACE aFOURTH_ bROOT aFOUR_ bBALLOON- cSPOKED_ dASTERISK bCLUB- cSPOKED_",
    "dASTERISK bCORNER_ cARROWS_ dCIRCLING_ eANTICLOCKWISE bDOT_ cMARK cPUNCTUATION bLEAF_",
    "cCLOVER bPOINTED_ cBLACK_ dSTAR bTEARDROP- cSPOKED_ dASTERISK aFOX_ bFACE aFRACTION_",
    "bNUMERATOR_ cONE bSLASH aFRAME_ bWITH_ cAN_ dX cPICTURE cTILES aFREEZING_ bFACE aFRENCH_",
    "bFRANC_ cSIGN bFRIES aFRIED_ bSHRIMP aFROG_ bFACE aFRONT- bFACING_ cBABY_ dCHICK bTILTED_",
    "cSHADOWED_ dWHITE_ eRIGHTWARDS_ fARROW aFROWN aFROWNING_ bFACE_ cWITH_ dOPEN_ eMOUTH aFS",
    "aFSI aFUEL_ bPUMP aFULLWIDTH_ bAMPERSAND bAPOSTROPHE bASTERISK bBROKEN_ cBAR bCENT_ cSIGN",
    "bCIRCUMFLEX_ cACCENT bCOLON bCOMMA bCOMMERCIAL_ cAT bDIGIT_ cEIGHT cFIVE cFOUR cNINE cONE",
    "cSEVEN cSIX cTHREE cTWO cZERO bDOLLAR_ cSIGN bEQUALS_ cSIGN bEXCLAMATION_ cMARK bFULL_",
    "cSTOP bGRAVE_ cACCENT bGREATER- cTHAN_ dSIGN bHYPHEN- cMINUS bLATIN_ cCAPITAL_ dLETTER_ eA",
    "eB eC eD eE eF eG eH eI eJ eK eL eM eN eO eP eQ eR eS eT eU eV eW eX eY eZ cSMALL_ dLETTER_",
    "eA eB eC eD eE eF eG eH eI eJ eK eL eM eN eO eP eQ eR eS eT eU eV eW eX eY eZ bLEFT_",
    "cCURLY_ dBRACKET cPARENTHESIS cSQUARE_ dBRACKET cWHITE_ dPARENTHESIS bLESS- cTHAN_ dSIGN",
    "bLOW_ cLINE bMACRON bNOT_ cSIGN bNUMBER_ cSIGN bPERCENT_ cSIGN bPLUS_ cSIGN bPOUND_ cSIGN",
    "bQUESTION_ cMARK bQUOTATION_ cMARK bREVERSE_ cSOLIDUS bRIGHT_ cCURLY_ dBRACKET cPARENTHESIS",
    "cSQUARE_ dBRACKET cWHITE_ dPARENTHESIS bSEMICOLON bSOLIDUS bTILDE bVERTICAL_ cLINE bWON_",
    "cSIGN bYEN_ cSIGN aFULL_ bBLOCK bMOON_ cSYMBOL cWITH_ dFACE bOUTER_ cJOIN bSTOP aFUNCTION_",
    "bAPPLICATION aFUNERAL_ bURN aFUSE aFVS1 aFVS2 aFVS3 aFVS4 aGAME_ bDIE aGARLIC aGEAR aGEAR_",
    "bWITHOUT_ cHUB bWITH_ cHANDLES aGEMINI aGEM_ bSTONE aGENIE aGEOMETRICALLY_ bEQUAL_ cTO",
    "bEQUIVALENT_ cTO aGEOMETRIC_ bPROPORTION aGEORGIAN_ bCAPITAL_ cLETTER_ dAEN dAN dBAN dCAN",
    "dCHAR dCHIN dCIL dDON dEN dGAN dGHAN dHAE dHAR dHE dHIE dHOE dIN dJHAN dJIL dKAN dKHAR dLAS",
    "dMAN dNAR dON dPAR dPHAR dQAR dRAE dSAN dSHIN dTAN dTAR dUN dVIN dWE dXAN dYN dZEN dZHAR",
    "bLETTER_ cAEN cAIN cAN cBAN cCAN cCHAR cCHIN cCIL cDON cELIFI cEN cFI cGAN cGHAN cHAE cHAR",
    "cHARD_ dSIGN cHE cHIE cHOE cIN cJHAN cJIL cKAN cKHAR cLABIAL_ dSIGN cLAS cMAN cNAR cON cPAR",
    "cPHAR cQAR cRAE cSAN cSHIN cTAN cTAR cTURNED_ dGAN cUN cVIN cWE cXAN cYN cZEN cZHAR",
    "bMTAVRULI_ cCAPITAL_ dLETTER_ eAEN eAIN eAN eBAN eCAN eCHAR eCHIN eCIL eDON eELIFI eEN eFI",
    "eGAN eGHAN eHAE eHAR eHARD_ fSIGN eHE eHIE eHOE eIN eJHAN eJIL eKAN eKHAR eLABIAL_ fSIGN",
    "eLAS eMAN eNAR eON ePAR ePHAR eQAR eRAE eSAN eSHIN eTAN eTAR eTURNED_ fGAN eUN eVIN eWE",
    "eXAN eYN eZEN eZHAR bPARAGRAPH_ cSEPARATOR bSMALL_ cLETTER_ dAEN dAN dBAN dCAN dCHAR dCHIN",
    "dCIL dDON dEN dGAN dGHAN dHAE dHAR dHE dHIE dHOE dIN dJHAN dJIL dKAN dKHAR dLAS dMAN dNAR",
    "dON dPAR dPHAR dQAR dRAE dSAN dSHIN dTAN dTAR dUN dVIN dWE dXAN dYN dZEN dZHAR aGERMAN_",
    "bPENNY_ cSIGN aGETA_ bMARK aGHOST aGIMEL_ bSYMBOL aGIRAFFE_ bFACE aGIRL aGIRLS_ bSYMBOL",
    "aGLAGOLITIC_ bCAPITAL_ cLETTER_ dAZU dBIG_ eYUS dBUKY dCAUDATE_ eCHRIVI dCHRIVI dDJERVI",
    "dDOBRO dDZELO dFITA dFRITU dGLAGOLI dHERU dI dINITIAL_ eIZHE dIOTATED_ eBIG_ fYUS eSMALL_",
    "fYUS dIZHE dIZHITSA dKAKO dLATINATE_ eMYSLITE dLJUDIJE dMYSLITE dNASHI dONU dOTU dPE",
    "dPOKOJI dRITSI dSHA dSHTA dSHTAPIC dSLOVO dSMALL_ eYUS eYUS_ fWITH_ gTAIL dSPIDERY_ eHA",
    "dTROKUTASTI_ eA dTSI dTVRIDO dUKU dVEDE dYATI dYERI dYERU dYESTU dYO dYU dZEMLJA dZHIVETE",
    "bSMALL_ cLETTER_ dAZU dBIG_ eYUS dBUKY dCAUDATE_ eCHRIVI dCHRIVI dDJERVI dDOBRO dDZELO",
    "dFITA dFRITU dGLAGOLI dHERU dI dINITIAL_ eIZHE dIOTATED_ eBIG_ fYUS eSMALL_ fYUS dIZHE",
    "dIZHITSA dKAKO dLATINATE_ eMYSLITE dLJUDIJE dMYSLITE dNASHI dONU dOTU dPE dPOKOJI dRITSI",
    "dSHA dSHTA dSHTAPIC dSLOVO dSMALL_ eYUS eYUS_ fWITH_ gTAIL dSPIDERY_ eHA dTROKUTASTI_ eA",
    "dTSI dTVRIDO dUKU dVEDE dYATI dYERI dYERU dYESTU dYO dYU dZEMLJA dZHIVETE aGLASS_ bOF_",
    "cMILK aGLEICH_ bSTARK aGLOBE_ bWITH_ cMERIDIANS aGLOVES aGLOWING_ bSTAR aGOAL_ bNET aGOAT",
    "aGOGGLES aGOLFER aGORILLA aGOTHIC_ bLETTER_ cAHSA cAIHVUS cBAIRKAN cDAGS cEIS cFAIHU cGIBA",
    "cHAGL cHWAIR cIGGWS cIUJA cJER cKUSMA cLAGUS cMANNA cNAUTHS cNINETY cNINE_ dHUNDRED cOTHAL",
    "cPAIRTHRA cQAIRTHRA cRAIDA cSAUIL cTEIWS cTHIUTH cURUS cWINJA aGRADUATION_ bCAP aGRANTHA_",
    "bAU_ cLENGTH_ dMARK bLETTER_ cA cAA cAI cAU cBA cBHA cCA cCHA cDA cDDA cDDHA cDHA cEE cGA",
    "cGHA cHA cI cII cJA cJHA cKA cKHA cLA cLLA cMA cNA cNGA cNNA cNYA cOO cPA cPHA cRA cSA cSHA",
    "cSSA cTA cTHA cTTA cTTHA cU cUU cVA cVEDIC_ dANUSVARA dDOUBLE_ eANUSVARA cVOCALIC_ dL dLL",
    "dR dRR cYA bOM bSIGN_ cANUSVARA cAVAGRAHA cCANDRABINDU cCOMBINING_ dANUSVARA_ eABOVE cNUKTA",
    "cPLUTA cVIRAMA cVISARGA bVOWEL_ cSIGN_ dAA dAI dAU dEE dI dII dOO dU dUU dVOCALIC_ eL eLL",
    "eR eRR aGRAPES aGRAVE_ bACCENT aGREATER- bTHAN_ cABOVE_ dDOUBLE- eLINE_ fEQUAL_ gABOVE_",
    "hLESS- iTHAN dLESS- eTHAN_ fABOVE_ gDOUBLE- hLINE_ iEQUAL dRIGHTWARDS_ eARROW dSIMILAR_",
    "eABOVE_ fLESS- gTHAN eOR_ fEQUAL dSLANTED_ eEQUAL_ fABOVE_ gLESS- hTHAN_ iABOVE_ jSLANTED_",
    "kEQUAL cAND_ dNOT_ eAPPROXIMATE dSINGLE- eLINE_ fNOT_ gEQUAL_ hTO cBESIDE_ dLESS- eTHAN",
    "cBUT_ dNOT_ eEQUAL_ fTO eEQUIVALENT_ fTO cCLOSED_ dBY_ eCURVE eCURVE_ fABOVE_ gSLANTED_",
    "hEQUAL cEQUAL_ dTO_ eOR_ fLESS- gTHAN cOR_ dAPPROXIMATE dEQUAL_ eTO dEQUIVALENT_ eTO dLESS-",
    "eTHAN dSLANTED_ eEQUAL_ fTO fTO_ gWITH_ hDOT_ iABOVE iABOVE_ jLEFT iINSIDE cOVERLAPPING_",
    "dLESS- eTHAN cOVER_ dEQUAL_ eTO cSIGN cWITH_ dCIRCLE_ eINSIDE dDOT dQUESTION_ eMARK_ fABOVE",
    "aGREEK_ bACROPHONIC_ cATTIC_ dFIFTY dFIFTY_ eSTATERS eTALENTS eTHOUSAND eTHOUSAND_ fSTATERS",
    "dFIVE dFIVE_ eHUNDRED eHUNDRED_ fSTATERS fTALENTS eSTATERS eTALENTS eTHOUSAND eTHOUSAND_",
    "fTALENTS dONE_ eDRACHMA eHALF eHUNDRED_ fSTATERS fTALENTS eQUARTER eTHOUSAND_ fSTATERS",
    "fTALENTS dTEN_ eMNAS eSTATERS eTALENTS eTHOUSAND_ fSTATERS cCARYSTIAN_ dFIVE_ eHUNDRED",
    "cCYRENAIC_ dTWO_ eDRACHMAS cDELPHIC_ dFIVE_ eMNAS cEPIDAUREAN_ dFIVE_ eHUNDRED dTWO dTWO_",
    "eDRACHMAS cHERAEUM_ dONE_ ePLETHRON cHERMIONIAN_ dFIFTY dONE dTEN cMESSENIAN_ dTEN cNAXIAN_",
    "dFIVE_ eHUNDRED cSTRATIAN_ dFIFTY_ eMNAS cTHESPIAN_ dFIFTY dFIVE_ eHUNDRED eTHOUSAND dONE",
    "dONE_ eHUNDRED eTHOUSAND dTEN dTHIRTY dTHREE_ eHUNDRED dTWO cTROEZENIAN_ dFIFTY dFIFTY_",
    "eALTERNATE_ fFORM dFIVE dFIVE_ eHUNDRED dTEN dTEN_ eALTERNATE_ fFORM bANO_ cTELEIA bAROURA_",
    "cSIGN bARTABE_ cSIGN bBETA_ cSYMBOL bCAPITAL_ cDOTTED_ dLUNATE_ eSIGMA_ fSYMBOL cKAI_",
    "dSYMBOL cLETTER_ dALPHA dALPHA_ eWITH_ fDASIA fDASIA_ gAND_ hOXIA hOXIA_ iAND_",
    "jPROSGEGRAMMENI hPERISPOMENI hPERISPOMENI_ iAND_ jPROSGEGRAMMENI hPROSGEGRAMMENI hVARIA",
    "hVARIA_ iAND_ jPROSGEGRAMMENI fMACRON fOXIA fPROSGEGRAMMENI fPSILI fPSILI_ gAND_ hOXIA",
    "hOXIA_ iAND_ jPROSGEGRAMMENI hPERISPOMENI hPERISPOMENI_ iAND_ jPROSGEGRAMMENI",
    "hPROSGEGRAMMENI hVARIA hVARIA_ iAND_ jPROSGEGRAMMENI fTONOS fVARIA fVRACHY dARCHAIC_ eSAMPI",
    "dBETA dCHI dDELTA dEPSILON dEPSILON_ eWITH_ fDASIA fDASIA_ gAND_ hOXIA hVARIA fOXIA fPSILI",
    "fPSILI_ gAND_ hOXIA hVARIA fTONOS fVARIA dETA dETA_ eWITH_ fDASIA fDASIA_ gAND_ hOXIA",
    "hOXIA_ iAND_ jPROSGEGRAMMENI hPERISPOMENI hPERISPOMENI_ iAND_ jPROSGEGRAMMENI",
    "hPROSGEGRAMMENI hVARIA hVARIA_ iAND_ jPROSGEGRAMMENI fOXIA fPROSGEGRAMMENI fPSILI fPSILI_",
    "gAND_ hOXIA hOXIA_ iAND_ jPROSGEGRAMMENI hPERISPOMENI hPERISPOMENI_ iAND_ jPROSGEGRAMMENI",
    "hPROSGEGRAMMENI hVARIA hVARIA_ iAND_ jPROSGEGRAMMENI fTONOS fVARIA dGAMMA dHETA dIOTA",
    "dIOTA_ eWITH_ fDASIA fDASIA_ gAND_ hOXIA hPERISPOMENI hVARIA fDIALYTIKA fMACRON fOXIA",
    "fPSILI fPSILI_ gAND_ hOXIA hPERISPOMENI hVARIA fTONOS fVARIA fVRACHY dKAPPA dLAMDA dMU dNU",
    "dOMEGA dOMEGA_ eWITH_ fDASIA fDASIA_ gAND_ hOXIA hOXIA_ iAND_ jPROSGEGRAMMENI hPERISPOMENI",
    "hPERISPOMENI_ iAND_ jPROSGEGRAMMENI hPROSGEGRAMMENI hVARIA hVARIA_ iAND_ jPROSGEGRAMMENI",
    "fOXIA fPROSGEGRAMMENI fPSILI fPSILI_ gAND_ hOXIA hOXIA_ iAND_ jPROSGEGRAMMENI hPERISPOMENI",
    "hPERISPOMENI_ iAND_ jPROSGEGRAMMENI hPROSGEGRAMMENI hVARIA hVARIA_ iAND_ jPROSGEGRAMMENI",
    "fTONOS fVARIA dOMICRON dOMICRON_ eWITH_ fDASIA fDASIA_ gAND_ hOXIA hVARIA fOXIA fPSILI",
    "fPSILI_ gAND_ hOXIA hVARIA fTONOS fVARIA dPAMPHYLIAN_ eDIGAMMA dPHI dPI dPSI dRHO dRHO_",
    "eWITH_ fDASIA dSAN dSHO dSIGMA dTAU dTHETA dUPSILON dUPSILON_ eWITH_ fDASIA fDASIA_ gAND_",
    "hOXIA hPERISPOMENI hVARIA fDIALYTIKA fMACRON fOXIA fTONOS fVARIA fVRACHY dXI dYOT dZETA",
    "cLUNATE_ dSIGMA_ eSYMBOL cREVERSED_ dDOTTED_ eLUNATE_ fSIGMA_ gSYMBOL dLUNATE_ eSIGMA_",
    "fSYMBOL cTHETA_ dSYMBOL bDASIA bDASIA_ cAND_ dOXIA dPERISPOMENI dVARIA bDIALYTIKA_ cAND_",
    "dOXIA dPERISPOMENI dVARIA cTONOS bDRACHMA_ cSIGN bFIVE_ cOBOLS_ dSIGN bFOUR_ cOBOLS_ dSIGN",
    "bGRAMMA_ cSIGN bINDICTION_ cSIGN bINSTRUMENTAL_ cNOTATION_ dSYMBOL- e1 e11 e12 e13 e14 e17",
    "e18 e19 e2 e23 e24 e25 e26 e27 e29 e30 e32 e36 e37 e38 e39 e4 e40 e42 e43 e45 e47 e48 e49",
    "e5 e50 e51 e52 e53 e54 e7 e8 bKAI_ cSYMBOL bKAPPA_ cSYMBOL bKORONIS bKYATHOS_ cBASE_ dSIGN",
    "bLETTER_ cARCHAIC_ dKOPPA cDIGAMMA cKOPPA cSAMPI cSMALL_ dCAPITAL_ eGAMMA eLAMDA eOMEGA ePI",
    "ePSI eRHO cSTIGMA cYOT bLITRA_ cSIGN bLOWER_ cNUMERAL_ dSIGN bLUNATE_ cEPSILON_ dSYMBOL",
    "cSIGMA_ dSYMBOL bMETRETES_ cSIGN bMUSICAL_ cLEIMMA bNUMERAL_ cSIGN bOBOL_ cSIGN bONE_",
    "cHALF_ dSIGN dSIGN_ eALTERNATE_ fFORM cQUARTER_ dSIGN bOUNKIA_ cSIGN bOXIA bPERISPOMENI",
    "bPHI_ cSYMBOL bPI_ cSYMBOL bPROSGEGRAMMENI bPSILI bPSILI_ cAND_ dOXIA dPERISPOMENI dVARIA",
    "bQUESTION_ cMARK bREVERSED_ cLUNATE_ dEPSILON_ eSYMBOL bRHO_ cSYMBOL cWITH_ dSTROKE_",
    "eSYMBOL bSINUSOID_ cSIGN bSMALL_ cDOTTED_ dLUNATE_ eSIGMA_ fSYMBOL cLETTER_ dALPHA dALPHA_",
    "eWITH_ fDASIA fDASIA_ gAND_ hOXIA hOXIA_ iAND_ jYPOGEGRAMMENI hPERISPOMENI hPERISPOMENI_",
    "iAND_ jYPOGEGRAMMENI hVARIA hVARIA_ iAND_ jYPOGEGRAMMENI hYPOGEGRAMMENI fMACRON fOXIA",
    "fOXIA_ gAND_ hYPOGEGRAMMENI fPERISPOMENI fPERISPOMENI_ gAND_ hYPOGEGRAMMENI fPSILI fPSILI_",
    "gAND_ hOXIA hOXIA_ iAND_ jYPOGEGRAMMENI hPERISPOMENI hPERISPOMENI_ iAND_ jYPOGEGRAMMENI",
    "hVARIA hVARIA_ iAND_ jYPOGEGRAMMENI hYPOGEGRAMMENI fTONOS fVARIA fVARIA_ gAND_",
    "hYPOGEGRAMMENI fVRACHY fYPOGEGRAMMENI dARCHAIC_ eKOPPA eSAMPI dBETA dCHI dDELTA dDIGAMMA",
    "dEPSILON dEPSILON_ eWITH_ fDASIA fDASIA_ gAND_ hOXIA hVARIA fOXIA fPSILI fPSILI_ gAND_",
    "hOXIA hVARIA fTONOS fVARIA dETA dETA_ eWITH_ fDASIA fDASIA_ gAND_ hOXIA hOXIA_ iAND_",
    "jYPOGEGRAMMENI hPERISPOMENI hPERISPOMENI_ iAND_ jYPOGEGRAMMENI hVARIA hVARIA_ iAND_",
    "jYPOGEGRAMMENI hYPOGEGRAMMENI fOXIA fOXIA_ gAND_ hYPOGEGRAMMENI fPERISPOMENI fPERISPOMENI_",
    "gAND_ hYPOGEGRAMMENI fPSILI fPSILI_ gAND_ hOXIA hOXIA_ iAND_ jYPOGEGRAMMENI hPERISPOMENI",
    "hPERISPOMENI_ iAND_ jYPOGEGRAMMENI hVARIA hVARIA_ iAND_ jYPOGEGRAMMENI hYPOGEGRAMMENI",
    "fTONOS fVARIA fVARIA_ gAND_ hYPOGEGRAMMENI fYPOGEGRAMMENI dFINAL_ eSIGMA dGAMMA dHETA dIOTA",
    "dIOTA_ eWITH_ fDASIA fDASIA_ gAND_ hOXIA hPERISPOMENI hVARIA fDIALYTIKA fDIALYTIKA_ gAND_",
    "hOXIA hPERISPOMENI hTONOS hVARIA fMACRON fOXIA fPERISPOMENI fPSILI fPSILI_ gAND_ hOXIA",
    "hPERISPOMENI hVARIA fTONOS fVARIA fVRACHY dKAPPA dKOPPA dLAMDA dMU dNU dOMEGA dOMEGA_",
    "eWITH_ fDASIA fDASIA_ gAND_ hOXIA hOXIA_ iAND_ jYPOGEGRAMMENI hPERISPOMENI hPERISPOMENI_",
    "iAND_ jYPOGEGRAMMENI hVARIA hVARIA_ iAND_ jYPOGEGRAMMENI hYPOGEGRAMMENI fOXIA fOXIA_ gAND_",
    "hYPOGEGRAMMENI fPERISPOMENI fPERISPOMENI_ gAND_ hYPOGEGRAMMENI fPSILI fPSILI_ gAND_ hOXIA",
    "hOXIA_ iAND_ jYPOGEGRAMMENI hPERISPOMENI hPERISPOMENI_ iAND_ jYPOGEGRAMMENI hVARIA hVARIA_",
    "iAND_ jYPOGEGRAMMENI hYPOGEGRAMMENI fTONOS fVARIA fVARIA_ gAND_ hYPOGEGRAMMENI",
    "fYPOGEGRAMMENI dOMICRON dOMICRON_ eWITH_ fDASIA fDASIA_ gAND_ hOXIA hVARIA fOXIA fPSILI",
    "fPSILI_ gAND_ hOXIA hVARIA fTONOS fVARIA dPAMPHYLIAN_ eDIGAMMA dPHI dPI dPSI dRHO dRHO_",
    "eWITH_ fDASIA fPSILI dSAMPI dSAN dSHO dSIGMA dSTIGMA dTAU dTHETA dUPSILON dUPSILON_ eWITH_",
    "fDASIA fDASIA_ gAND_ hOXIA hPERISPOMENI hVARIA fDIALYTIKA fDIALYTIKA_ gAND_ hOXIA",
    "hPERISPOMENI hTONOS hVARIA fMACRON fOXIA fPERISPOMENI fPSILI fPSILI_ gAND_ hOXIA",
    "hPERISPOMENI hVARIA fTONOS fVARIA fVRACHY dXI dZETA cREVERSED_ dDOTTED_ eLUNATE_ fSIGMA_",
    "gSYMBOL dLUNATE_ eSIGMA_ fSYMBOL bSUBSCRIPT_ cSMALL_ dLETTER_ eBETA eCHI eGAMMA ePHI eRHO",
    "bSYMBOL_ cTAU_ dRHO bTALENT_ cSIGN bTHETA_ cSYMBOL bTHREE_ cOBOLS_ dSIGN cQUARTERS_ dSIGN",
    "bTONOS bTRYBLION_ cBASE_ dSIGN bTWO_ cOBOLS_ dSIGN cTHIRDS_ dSIGN bUPSILON_ cWITH_ dACUTE_",
    "eAND_ fHOOK_ gSYMBOL dDIAERESIS_ eAND_ fHOOK_ gSYMBOL dHOOK_ eSYMBOL bVARIA bVOCAL_",
    "cNOTATION_ dSYMBOL- e1 e10 e11 e12 e13 e14 e15 e16 e17 e18 e19 e2 e20 e21 e22 e23 e24 e3 e4",
    "e5 e50 e51 e52 e53 e54 e6 e7 e8 e9 bXESTES_ cSIGN bYEAR_ cSIGN bYPOGEGRAMMENI bZERO_ cSIGN",
    "aGREEN_ bAPPLE bBOOK bHEART bSALAD aGRIMACING_ bFACE aGRINNING_ bCAT_ cFACE_ dWITH_",
    "eSMILING_ fEYES bFACE bFACE_ cWITH_ dONE_ eLARGE_ fAND_ gONE_ hSMALL_ iEYE dSMILING_ eEYES",
    "dSTAR_ eEYES aGROUP_ bMARK bSEPARATOR aGROWING_ bHEART aGS aGUARANI_ bSIGN aGUARDSMAN",
    "aGUIDE_ bDOG aGUITAR aGUJARATI_ bABBREVIATION_ cSIGN bDIGIT_ cEIGHT cFIVE cFOUR cNINE cONE",
    "cSEVEN cSIX cTHREE cTWO cZERO bLETTER_ cA cAA cAI cAU cBA cBHA cCA cCHA cDA cDDA cDDHA cDHA",
    "cE cGA cGHA cHA cI cII cJA cJHA cKA cKHA cLA cLLA cMA cNA cNGA cNNA cNYA cO cPA cPHA cRA",
    "cSA cSHA cSSA cTA cTHA cTTA cTTHA cU cUU cVA cVOCALIC_ dL dLL dR dRR cYA cZHA bOM bRUPEE_",
    "cSIGN bSIGN_ cANUSVARA cAVAGRAHA cCANDRABINDU cCIRCLE_ dNUKTA_ eABOVE cMADDAH cNUKTA",
    "cSHADDA cSUKUN cTHREE- dDOT_ eNUKTA_ fABOVE cTWO- dCIRCLE_ eNUKTA_ fABOVE cVIRAMA cVISARGA",
    "bVOWEL_ cCANDRA_ dE dO cSIGN_ dAA dAI dAU dCANDRA_ eE eO dE dI dII dO dU dUU dVOCALIC_ eL",
    "eLL eR eRR aGUNJALA_ bGONDI_ cDIGIT_ dEIGHT dFIVE dFOUR dNINE dONE dSEVEN dSIX dTHREE dTWO",
    "dZERO cLETTER_ dA dAA dAI dAU dBA dBHA dCA dCHA dDA dDDA dDDHA dDHA dEE dGA dGHA dHA dI dII",
    "dJA dJHA dKA dKHA dLA dLLA dMA dNA dNGA dOO dPA dPHA dRA dSA dTA dTHA dTTA dTTHA dU dUU dVA",
    "dYA cOM cSIGN_ dANUSVARA dVISARGA cVIRAMA cVOWEL_ dSIGN_ eAA eAI eAU eEE eI eII eOO eU eUU",
    "aGURMUKHI_ bABBREVIATION_ cSIGN bADDAK bDIGIT_ cEIGHT cFIVE cFOUR cNINE cONE cSEVEN cSIX",
    "cTHREE cTWO cZERO bEK_ cONKAR bIRI bLETTER_ cA cAA cAI cAU cBA cBHA cCA cCHA cDA cDDA cDDHA",
    "cDHA cEE cFA cGA cGHA cGHHA cHA cI cII cJA cJHA cKA cKHA cKHHA cLA cLLA cMA cNA cNGA cNNA",
    "cNYA cOO cPA cPHA cRA cRRA cSA cSHA cTA cTHA cTTA cTTHA cU cUU cVA cYA cZA bSIGN_ cADAK_",
    "dBINDI cBINDI cNUKTA cUDAAT cVIRAMA cVISARGA cYAKASH bTIPPI bURA bVOWEL_ cSIGN_ dAA dAI dAU",
    "dEE dI dII dOO dU dUU"]

end GoMetrics.Text.CharName
