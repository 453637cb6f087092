/-!
Names of characters that begin with C, as a tree of their words (Unicode 14).
-/

namespace GoMetrics.Text.CharName

def namesC : List String :=
  ["aCACTUS aCADA_ bUNA aCADUCEUS aCALENDAR aCALL_ bME_ cHAND aCAMERA aCAMERA_ bWITH_ cFLASH",
    "aCAMPING aCAN aCANADIAN_ bSYLLABICS_ cA cAA cAAI cAAY cAI cAIVILIK_ dB cAN cATHAPASCAN_ dM",
    "dS cAY cBEAVER_ dDENE_ eL eR cBIBLE- dCREE_ eY cBLACKFOOT_ dA dE dI dKA dKE dKI dKO dNA dNE",
    "dNI dNO dO dS dW dWA dWE dWI dWO cC cCA cCAA cCAAI cCARRIER_ dCHA dCHE dCHEE dCHI dCHO dCHU",
    "dDEE dDENE_ eGEE dDENTAL_ eS dDI dDLA dDLE dDLEE dDLI dDLO dDLU dDZA dDZE dDZEE dDZI dDZO",
    "dDZU dEE dGA dGAA dGE dGEE dGHA dGHE dGHEE dGHI dGHO dGHU dGI dGO dGU dGWA dGWU dH dHEE dHI",
    "dHWA dHWE dHWEE dHWI dHWO dHWU dI dINITIAL_ eZ dJA dJE dJEE dJI dJJA dJJE dJJEE dJJI dJJO",
    "dJJU dJO dJU dJWA dKHA dKHE dKHEE dKHI dKHO dKHU dKK dKKA dKKE dKKEE dKKI dKKO dKKU dLA dLE",
    "dLEE dLHA dLHE dLHEE dLHI dLHO dLHU dLI dLO dLU dMA dME dMEE dMI dMO dMU dNA dNE dNEE dNG",
    "dNI dNO dNU dP dPA dPE dPEE dPI dPO dPU dRA dRE dREE dRI dRO dRU dSA dSE dSEE dSH dSHA dSHE",
    "dSHEE dSHI dSHO dSHU dSI dSO dSU dTHA dTHE dTHEE dTHI dTHO dTHU dTLA dTLE dTLEE dTLHA dTLHE",
    "dTLHEE dTLHI dTLHO dTLHU dTLI dTLO dTLU dTSA dTSE dTSEE dTSI dTSO dTSU dTTA dTTE dTTEE dTTI",
    "dTTO dTTSA dTTSE dTTSEE dTTSI dTTSO dTTSU dTTU dWA dWE dWEE dWI dWO dWU dYA dYE dYEE dYI",
    "dYO dYU dZ dZA dZE dZEE dZI dZO dZU cCE cCHI_ dSIGN cCI cCII cCO cCOO cCWA cCWAA cCWE cCWI",
    "cCWII cCWO cCWOO cE cEASTERN_ dW cEN cF cFA cFAA cFAAI cFE cFI cFII cFINAL_ dACUTE dBOTTOM_",
    "eHALF_ fRING dDOUBLE_ eACUTE eSHORT_ fVERTICAL_ gSTROKES dDOWN_ eTACK dGRAVE dMIDDLE_ eDOT",
    "dPLUS dRAISED_ eDOT dRIGHT_ eHALF_ fRING dRING dSHORT_ eHORIZONTAL_ fSTROKE dSMALL_ eRING",
    "dTOP_ eHALF_ fRING cFO cFOO cFULL_ dSTOP cFWAA cGLOTTAL_ dSTOP cHK cHYPHEN cI cII cIN cK",
    "cKA cKAA cKAAI cKAY cKE cKI cKII cKO cKOO cKW cKWA cKWAA cKWAY cKWE cKWI cKWII cKWO cKWOO",
    "cL cLA cLAA cLAAI cLAY cLE cLH cLHA cLHAA cLHI cLHII cLHO cLHOO cLI cLII cLO cLOO cLWA",
    "cLWAA cLWE cLWI cLWII cLWO cLWOO cM cMA cMAA cMAAI cMAY cME cMEDIAL_ dL dR cMH cMI cMII cMO",
    "cMOO cMOOSE- dCREE_ eSK cMWA cMWAA cMWE cMWI cMWII cMWO cMWOO cN cN- dCREE_ eTHE eTHI eTHII",
    "cNA cNAA cNAAI cNASKAPI_ dCWAA dKWAA dMWAA dNWAA dS- eW dSCWA dSKW dSKWA dSPWA dSTWA dSWAA",
    "dTWAA dWAA dWOO dYWAA cNATTILIK_ dHA dHAA dHI dHII dHO dHOO dSHRA dSHRAA dSHRI dSHRII dSHRO",
    "dSHROO cNAY cNE cNG cNGA cNGAA cNGAAI cNGAI cNGI cNGII cNGO cNGOO cNH cNI cNII cNNG cNNGA",
    "cNNGAA cNNGI cNNGII cNNGO cNNGOO cNO cNOO cNOY cNUNAVIK_ dH dHA dHAA dHE dHI dHII dHO dHOO",
    "cNUNAVUT_ dH cNWA cNWAA cNWE cNWI cNWII cNWO cNWOO cO cOJIBWAY_ dC dK dM dN dNWI dNWII dNWO",
    "dNWOO dP dS dSH dT cON cOO cOY cP cPA cPAA cPAAI cPAY cPE cPI cPII cPO cPOO cPOY cPWA cPWAA",
    "cPWE cPWI cPWII cPWO cPWOO cPWOY cQ cQA cQAA cQAAI cQAI cQI cQII cQO cQOO cR cR- dCREE_ eRE",
    "eRWE cRA cRAA cRAAI cRAY cRE cRI cRII cRO cROO cRWA cRWAA cRWEE cRWI cRWII cRWO cRWOO cS",
    "cSA cSAA cSAAI cSAY cSAYISI_ dHA dHE dHI dHO dHOO dJI dJU dJUU dM dSHA dSHE dSHI dSHO dSHOO",
    "dSHWE dTH dYI cSE cSH cSHA cSHAA cSHAY cSHE cSHI cSHII cSHO cSHOO cSHOY cSHWA cSHWAA cSHWE",
    "cSHWI cSHWII cSHWO cSHWOO cSHWOY cSI cSII cSO cSOO cSOUTH- dSLAVEY_ eKAH eKEH eKIH eKOH",
    "cSOY cSPA cSPE cSPI cSPO cSW cSWA cSWAA cSWE cSWI cSWII cSWO cSWOO cT cTA cTAA cTAAI cTAY",
    "cTE cTH cTH- dCREE_ eTH eTHA eTHAA eTHE eTHI eTHII eTHO eTHOO cTHA cTHAA cTHE cTHI cTHII",
    "cTHO cTHOO cTHWA cTHWAA cTHWE cTI cTII cTLHA cTLHE cTLHI cTLHO cTLHOO cTLHWE cTO cTOO cTTA",
    "cTTE cTTH cTTHA cTTHAA cTTHE cTTHI cTTHO cTTHOO cTTHWE cTTI cTTO cTWA cTWAA cTWE cTWI cTWII",
    "cTWO cTWOO cTYA cTYE cTYI cTYO cWA cWAA cWAY cWE cWEST- dCREE_ eCWA eCWAA eCWE eCWI eCWII",
    "eCWO eCWOO eFWAA eKWA eKWAA eKWE eKWI eKWII eKWO eKWOO eL eLA eLAA eLE eLO eLOO eLWA eLWAA",
    "eLWE eLWI eLWII eLWO eLWOO eM eMWA eMWAA eMWE eMWI eMWII eMWO eMWOO eNWA eNWAA eNWE eP ePWA",
    "ePWAA ePWE ePWI ePWII ePWO ePWOO eR eRA eRE eRI eRO eRWAA eSHWA eSHWAA eSHWE eSHWI eSHWII",
    "eSHWO eSHWOO eSWA eSWAA eSWE eSWI eSWII eSWO eSWOO eTHWAA eTWA eTWAA eTWE eTWI eTWII eTWO",
    "eTWOO eWA eWAA eWE eWI eWII eWO eWOO eY eYWA eYWAA eYWE eYWI eYWII eYWO eYWOO cWESTERN_ dW",
    "cWI cWII cWO cWOO cWOODS- dCREE_ eFINAL_ fTH eTH eTHA eTHE eTHI eTHO eTHWA eTHWAA eTHWEE",
    "eTHWI eTHWII eTHWO eTHWOO cY cY- dCREE_ eCOO eKOO eLOO eMOO eNOO eOO ePOO ePWAA eSOO eTOO",
    "eW eYOO cYA cYAA cYAAI cYAY cYE cYI cYII cYO cYOO cYOY cYWA cYWAA cYWE cYWI cYWII cYWO",
    "cYWOO aCANCEL aCANCELLATION_ bX aCANCEL_ bCHARACTER bTAG aCANCER aCANDLE aCANDY aCANNED_",
    "bFOOD aCANOE aCAPITULUM aCAPRICORN aCARD_ bFILE_ cBOX bINDEX bINDEX_ cDIVIDERS aCARET",
    "aCARET_ bINSERTION_ cPOINT aCARE_ bOF aCARIAN_ bLETTER_ cA cA2 cB cC- d18 d39 cD cD2 cE cE2",
    "cG cG2 cI cII cK cK2 cL cLD cLD2 cM cMB cMB2 cMB3 cMB4 cN cND cNG cNN cO cP cP2 cQ cR cRR",
    "cS cSH cSH2 cSS cST cST2 cT cTT cTT2 cU cUU cUUU cUUU2 cUUU3 cUUUU cX aCARON aCAROUSEL_",
    "bHORSE aCARPENTRY_ bSAW aCARP_ bSTREAMER aCARRIAGE_ bRETURN aCARROT aCAR_ bSLIDING aCASTLE",
    "aCAT aCAT_ bFACE bFACE_ cWITH_ dTEARS_ eOF_ fJOY dWRY_ eSMILE aCAUCASIAN_ bALBANIAN_",
    "cCITATION_ dMARK cLETTER_ dALT dAOR dBET dCAR dCAYN dCHA dCHAT dCHI dCHOY dCYAW dCYAY dDAT",
    "dDYAN dDZAY dDZYAY dEB dEYN dFAM dGHEYS dGIM dHEYT dINYA dIRB dIWN dJAYN dJHOX dKAR dKIW",
    "dLAN dLYIT dMAQ dNOWC dON dPEN dPIWR dQAR dQAY dRAT dSEYK dSHA dSHAK dSHOY dTAS dTIWR dTYAY",
    "dVEYZ dXEYN dYAYD dYOWD dZARL dZHA dZHIL aCAUTION_ bSIGN aCCH aCEDILLA aCEDI_ bSIGN",
    "aCELTIC_ bCROSS aCENTRELINE_ bLOW_ cLINE bOVERLINE aCENTRE_ bLINE_ cSYMBOL aCENT_ bSIGN",
    "aCERES aCGJ aCHAINS aCHAIR aCHAKMA_ bAU_ cMARK bDANDA bDIGIT_ cEIGHT cFIVE cFOUR cNINE cONE",
    "cSEVEN cSIX cTHREE cTWO cZERO bDOUBLE_ cDANDA bLETTER_ cAA cBAA cBHAA cCAA cCHAA cDAA cDDAA",
    "cDDHAA cDHAA cE cGAA cGHAA cHAA cI cJAA cJHAA cKAA cKHAA cLAA cLHAA cMAA cNAA cNGAA cNNAA",
    "cNYAA cPAA cPHAA cRAA cSAA cTAA cTHAA cTTAA cTTHAA cU cVAA cWAA cYAA cYYAA bMAAYYAA bO_",
    "cMARK bQUESTION_ cMARK bSECTION_ cMARK bSIGN_ cANUSVARA cCANDRABINDU cVISARGA bVIRAMA",
    "bVOWEL_ cSIGN_ dA dAA dAI dAU dE dEI dI dII dO dOI dU dUU aCHAM_ bCONSONANT_ cSIGN_ dFINAL_",
    "eH eM eNG dLA dRA dWA dYA bDIGIT_ cEIGHT cFIVE cFOUR cNINE cONE cSEVEN cSIX cTHREE cTWO",
    "cZERO bLETTER_ cA cAI cBA cBBA cBHA cCHA cCHHA cDA cDDA cDHA cE cFINAL_ dCH dG dK dL dN dNG",
    "dP dR dSS dT dY cGA cGHA cHA cI cJA cJHA cKA cKHA cLA cMA cMUE cNA cNGA cNGUE cNHA cNHJA",
    "cNHUE cNUE cO cPA cPHA cPPA cRA cSA cSSA cTA cTHA cU cVA cYA bPUNCTUATION_ cDANDA cDOUBLE_",
    "dDANDA cSPIRAL cTRIPLE_ dDANDA bVOWEL_ cSIGN_ dAA dAI dAU dEI dI dII dO dOE dU dUE",
    "aCHARACTER_ bTABULATION bTABULATION_ cSET cWITH_ dJUSTIFICATION bTIE aCHART_ bWITH_",
    "cDOWNWARDS_ dTREND cUPWARDS_ dTREND dTREND_ eAND_ fYEN_ gSIGN aCHECKER_ bBOARD bBOARD_",
    "cFILL aCHECK_ bMARK aCHEERING_ bMEGAPHONE aCHEESE_ bWEDGE aCHEQUERED_ bFLAG aCHEROKEE_",
    "bLETTER_ cA cDA cDE cDI cDLA cDO cDU cDV cE cGA cGE cGI cGO cGU cGV cHA cHE cHI cHNA cHO",
    "cHU cHV cI cKA cLA cLE cLI cLO cLU cLV cMA cME cMI cMO cMU cMV cNA cNAH cNE cNI cNO cNU cNV",
    "cO cQUA cQUE cQUI cQUO cQUU cQUV cS cSA cSE cSI cSO cSU cSV cTA cTE cTI cTLA cTLE cTLI cTLO",
    "cTLU cTLV cTSA cTSE cTSI cTSO cTSU cTSV cU cV cWA cWE cWI cWO cWU cWV cYA cYE cYI cYO cYU",
    "cYV bSMALL_ cLETTER_ dA dDA dDE dDI dDLA dDO dDU dDV dE dGA dGE dGI dGO dGU dGV dHA dHE dHI",
    "dHNA dHO dHU dHV dI dKA dLA dLE dLI dLO dLU dLV dMA dME dMI dMO dMU dMV dNA dNAH dNE dNI",
    "dNO dNU dNV dO dQUA dQUE dQUI dQUO dQUU dQUV dS dSA dSE dSI dSO dSU dSV dTA dTE dTI dTLA",
    "dTLE dTLI dTLO dTLU dTLV dTSA dTSE dTSI dTSO dTSU dTSV dU dV dWA dWE dWI dWO dWU dWV dYA",
    "dYE dYI dYO dYU dYV aCHERRIES aCHERRY_ bBLOSSOM aCHESTNUT aCHICKEN aCHILD aCHILDREN_",
    "bCROSSING aCHIPMUNK aCHIRON aCHI_ bRHO aCHOCOLATE_ bBAR aCHOPSTICKS aCHORASMIAN_ bLETTER_",
    "cALEPH cAYIN cBETH cCURLED_ dWAW cDALETH cGIMEL cHE cHETH cKAPH cLAMEDH cMEM cNUN cPE cRESH",
    "cSAMEKH cSHIN cSMALL_ dALEPH cTAW cWAW cYODH cZAYIN bNUMBER_ cFOUR cONE cONE_ dHUNDRED cTEN",
    "cTHREE cTWENTY cTWO aCHRISTMAS_ bTREE aCHURCH aCINEMA aCIRCLED_ bANTICLOCKWISE- cROTATED_",
    "dDIVISION_ eSIGN bANTICLOCKWISE_ cARROW bASTERISK_ cOPERATOR bBOLD_ cX bBULLET bCC bCD",
    "bCROSSING_ cLANES bCROSS_ cFORMEE cFORMEE_ dWITH_ eFOUR_ fDOTS eTWO_ fDOTS cPOMMEE bC_",
    "cWITH_ dOVERLAID_ eBACKSLASH bDASH bDIGIT_ cEIGHT cFIVE cFOUR cNINE cONE cSEVEN cSIX cTHREE",
    "cTWO cZERO bDIVISION_ cSIGN cSLASH bDOLLAR_ cSIGN_ dWITH_ eOVERLAID_ fBACKSLASH bDOT_",
    "cOPERATOR bEQUALS bGREATER- cTHAN bHANGUL_ cCHIEUCH cCHIEUCH_ dA cCIEUC cCIEUC_ dA cHIEUH",
    "cHIEUH_ dA cIEUNG cIEUNG_ dA dU cKHIEUKH cKHIEUKH_ dA cKIYEOK cKIYEOK_ dA cMIEUM cMIEUM_ dA",
    "cNIEUN cNIEUN_ dA cPHIEUPH cPHIEUPH_ dA cPIEUP cPIEUP_ dA cRIEUL cRIEUL_ dA cSIOS cSIOS_ dA",
    "cTHIEUTH cTHIEUTH_ dA cTIKEUT cTIKEUT_ dA bHEAVY_ cWHITE_ dRIGHTWARDS_ eARROW bHORIZONTAL_",
    "cBAR_ dWITH_ eNOTCH bHUMAN_ cFIGURE bIDEOGRAPH_ cACCEPT cADVANTAGE cALLIANCE cATTENTION",
    "cCENTRE cCONGRATULATION cCOPY cCORRECT cEARTH cEIGHT cENTERPRISE cEXCELLENT cFEMALE",
    "cFINANCIAL cFIRE cFIVE cFOUR cHAVE cHIGH cITEM cKINDERGARTEN cKOTO cLABOR cLEFT cLOW cMALE",
    "cMEDICINE cMETAL cMOON cNAME cNIGHT cNINE cONE cPRINT cQUESTION cRELIGION cRESOURCE cREST",
    "cRIGHT cSCHOOL cSECRET cSEVEN cSIX cSOCIETY cSPECIAL cSTOCK cSTUDY cSUITABLE cSUN",
    "cSUPERVISE cTEN cTHREE cTWO cWATER cWOOD bINFORMATION_ cSOURCE bITALIC_ cLATIN_ dCAPITAL_",
    "eLETTER_ fC fR bKATAKANA_ cA cE cHA cHE cHI cHO cHU cI cKA cKE cKI cKO cKU cMA cME cMI cMO",
    "cMU cNA cNE cNI cNO cNU cO cRA cRE cRI cRO cRU cSA cSE cSI cSO cSU cTA cTE cTI cTO cTU cU",
    "cWA cWE cWI cWO cYA cYO cYU bKOREAN_ cCHARACTER_ dCHAMKO dJUEUI bLATIN_ cCAPITAL_ dLETTER_",
    "eA eB eC eD eE eF eG eH eI eJ eK eL eM eN eO eP eQ eR eS eT eU eV eW eX eY eZ cSMALL_",
    "dLETTER_ eA eB eC eD eE eF eG eH eI eJ eK eL eM eN eO eP eQ eR eS eT eU eV eW eX eY eZ",
    "bLESS- cTHAN bMINUS bMULTIPLICATION_ cSIGN_ dWITH_ eCIRCUMFLEX_ fACCENT bNUMBER_ cEIGHTEEN",
    "cEIGHTY_ dON_ eBLACK_ fSQUARE cELEVEN cFIFTEEN cFIFTY cFIFTY_ dON_ eBLACK_ fSQUARE cFORTY",
    "cFORTY_ dEIGHT dFIVE dFOUR dNINE dONE dON_ eBLACK_ fSQUARE dSEVEN dSIX dTHREE dTWO",
    "cFOURTEEN cNINETEEN cSEVENTEEN cSEVENTY_ dON_ eBLACK_ fSQUARE cSIXTEEN cSIXTY_ dON_ eBLACK_",
    "fSQUARE cTEN cTEN_ dON_ eBLACK_ fSQUARE cTHIRTEEN cTHIRTY cTHIRTY_ dEIGHT dFIVE dFOUR dNINE",
    "dONE dON_ eBLACK_ fSQUARE dSEVEN dSIX dTHREE dTWO cTWELVE cTWENTY cTWENTY_ dEIGHT dFIVE",
    "dFOUR dNINE dONE dON_ eBLACK_ fSQUARE dSEVEN dSIX dTHREE dTWO bOPEN_ cCENTRE_ dEIGHT_",
    "ePOINTED_ fSTAR bPARALLEL bPERPENDICULAR bPLUS bPOSTAL_ cMARK bREVERSE_ cSOLIDUS bRING_",
    "cOPERATOR bSQUARE bTIMES bTRIANGLE bTRIANGLE_ cDOWN bVERTICAL_ cBAR bWHITE_ cBULLET cSTAR",
    "bWZ bX bZERO_ cWITH_ dSLASH aCIRCLE_ bDIVIDED_ cBY_ dHORIZONTAL_ eBAR_ fAND_ gTOP_ hHALF_",
    "iDIVIDED_ jBY_ kVERTICAL_ lBAR bWITH_ cALL_ dBUT_ eUPPER_ fLEFT_ gQUADRANT_ hBLACK",
    "cHORIZONTAL_ dBAR cLEFT_ dHALF_ eBLACK cLOWER_ dHALF_ eBLACK cRIGHT_ dHALF_ eBLACK cSMALL_",
    "dCIRCLE_ eTO_ fTHE_ gRIGHT cSUPERIMPOSED_ dX cTWO_ dHORIZONTAL_ eSTROKES_ fTO_ gTHE_ hRIGHT",
    "cUPPER_ dHALF_ eBLACK dRIGHT_ eQUADRANT_ fBLACK cVERTICAL_ dFILL aCIRCULATION_ bFUNCTION",
    "aCIRCUMFLEX_ bACCENT aCIRCUS_ bTENT aCITYSCAPE aCITYSCAPE_ bAT_ cDUSK aCJK_ bCOMPATIBILITY_",
    "cIDEOGRAPH- d2F800 d2F801 d2F802 d2F803 d2F804 d2F805 d2F806 d2F807 d2F808 d2F809 d2F80A",
    "d2F80B d2F80C d2F80D d2F80E d2F80F d2F810 d2F811 d2F812 d2F813 d2F814 d2F815 d2F816 d2F817",
    "d2F818 d2F819 d2F81A d2F81B d2F81C d2F81D d2F81E d2F81F d2F820 d2F821 d2F822 d2F823 d2F824",
    "d2F825 d2F826 d2F827 d2F828 d2F829 d2F82A d2F82B d2F82C d2F82D d2F82E d2F82F d2F830 d2F831",
    "d2F832 d2F833 d2F834 d2F835 d2F836 d2F837 d2F838 d2F839 d2F83A d2F83B d2F83C d2F83D d2F83E",
    "d2F83F d2F840 d2F841 d2F842 d2F843 d2F844 d2F845 d2F846 d2F847 d2F848 d2F849 d2F84A d2F84B",
    "d2F84C d2F84D d2F84E d2F84F d2F850 d2F851 d2F852 d2F853 d2F854 d2F855 d2F856 d2F857 d2F858",
    "d2F859 d2F85A d2F85B d2F85C d2F85D d2F85E d2F85F d2F860 d2F861 d2F862 d2F863 d2F864 d2F865",
    "d2F866 d2F867 d2F868 d2F869 d2F86A d2F86B d2F86C d2F86D d2F86E d2F86F d2F870 d2F871 d2F872",
    "d2F873 d2F874 d2F875 d2F876 d2F877 d2F878 d2F879 d2F87A d2F87B d2F87C d2F87D d2F87E d2F87F",
    "d2F880 d2F881 d2F882 d2F883 d2F884 d2F885 d2F886 d2F887 d2F888 d2F889 d2F88A d2F88B d2F88C",
    "d2F88D d2F88E d2F88F d2F890 d2F891 d2F892 d2F893 d2F894 d2F895 d2F896 d2F897 d2F898 d2F899",
    "d2F89A d2F89B d2F89C d2F89D d2F89E d2F89F d2F8A0 d2F8A1 d2F8A2 d2F8A3 d2F8A4 d2F8A5 d2F8A6",
    "d2F8A7 d2F8A8 d2F8A9 d2F8AA d2F8AB d2F8AC d2F8AD d2F8AE d2F8AF d2F8B0 d2F8B1 d2F8B2 d2F8B3",
    "d2F8B4 d2F8B5 d2F8B6 d2F8B7 d2F8B8 d2F8B9 d2F8BA d2F8BB d2F8BC d2F8BD d2F8BE d2F8BF d2F8C0",
    "d2F8C1 d2F8C2 d2F8C3 d2F8C4 d2F8C5 d2F8C6 d2F8C7 d2F8C8 d2F8C9 d2F8CA d2F8CB d2F8CC d2F8CD",
    "d2F8CE d2F8CF d2F8D0 d2F8D1 d2F8D2 d2F8D3 d2F8D4 d2F8D5 d2F8D6 d2F8D7 d2F8D8 d2F8D9 d2F8DA",
    "d2F8DB d2F8DC d2F8DD d2F8DE d2F8DF d2F8E0 d2F8E1 d2F8E2 d2F8E3 d2F8E4 d2F8E5 d2F8E6 d2F8E7",
    "d2F8E8 d2F8E9 d2F8EA d2F8EB d2F8EC d2F8ED d2F8EE d2F8EF d2F8F0 d2F8F1 d2F8F2 d2F8F3 d2F8F4",
    "d2F8F5 d2F8F6 d2F8F7 d2F8F8 d2F8F9 d2F8FA d2F8FB d2F8FC d2F8FD d2F8FE d2F8FF d2F900 d2F901",
    "d2F902 d2F903 d2F904 d2F905 d2F906 d2F907 d2F908 d2F909 d2F90A d2F90B d2F90C d2F90D d2F90E",
    "d2F90F d2F910 d2F911 d2F912 d2F913 d2F914 d2F915 d2F916 d2F917 d2F918 d2F919 d2F91A d2F91B",
    "d2F91C d2F91D d2F91E d2F91F d2F920 d2F921 d2F922 d2F923 d2F924 d2F925 d2F926 d2F927 d2F928",
    "d2F929 d2F92A d2F92B d2F92C d2F92D d2F92E d2F92F d2F930 d2F931 d2F932 d2F933 d2F934 d2F935",
    "d2F936 d2F937 d2F938 d2F939 d2F93A d2F93B d2F93C d2F93D d2F93E d2F93F d2F940 d2F941 d2F942",
    "d2F943 d2F944 d2F945 d2F946 d2F947 d2F948 d2F949 d2F94A d2F94B d2F94C d2F94D d2F94E d2F94F",
    "d2F950 d2F951 d2F952 d2F953 d2F954 d2F955 d2F956 d2F957 d2F958 d2F959 d2F95A d2F95B d2F95C",
    "d2F95D d2F95E d2F95F d2F960 d2F961 d2F962 d2F963 d2F964 d2F965 d2F966 d2F967 d2F968 d2F969",
    "d2F96A d2F96B d2F96C d2F96D d2F96E d2F96F d2F970 d2F971 d2F972 d2F973 d2F974 d2F975 d2F976",
    "d2F977 d2F978 d2F979 d2F97A d2F97B d2F97C d2F97D d2F97E d2F97F d2F980 d2F981 d2F982 d2F983",
    "d2F984 d2F985 d2F986 d2F987 d2F988 d2F989 d2F98A d2F98B d2F98C d2F98D d2F98E d2F98F d2F990",
    "d2F991 d2F992 d2F993 d2F994 d2F995 d2F996 d2F997 d2F998 d2F999 d2F99A d2F99B d2F99C d2F99D",
    "d2F99E d2F99F d2F9A0 d2F9A1 d2F9A2 d2F9A3 d2F9A4 d2F9A5 d2F9A6 d2F9A7 d2F9A8 d2F9A9 d2F9AA",
    "d2F9AB d2F9AC d2F9AD d2F9AE d2F9AF d2F9B0 d2F9B1 d2F9B2 d2F9B3 d2F9B4 d2F9B5 d2F9B6 d2F9B7",
    "d2F9B8 d2F9B9 d2F9BA d2F9BB d2F9BC d2F9BD d2F9BE d2F9BF d2F9C0 d2F9C1 d2F9C2 d2F9C3 d2F9C4",
    "d2F9C5 d2F9C6 d2F9C7 d2F9C8 d2F9C9 d2F9CA d2F9CB d2F9CC d2F9CD d2F9CE d2F9CF d2F9D0 d2F9D1",
    "d2F9D2 d2F9D3 d2F9D4 d2F9D5 d2F9D6 d2F9D7 d2F9D8 d2F9D9 d2F9DA d2F9DB d2F9DC d2F9DD d2F9DE",
    "d2F9DF d2F9E0 d2F9E1 d2F9E2 d2F9E3 d2F9E4 d2F9E5 d2F9E6 d2F9E7 d2F9E8 d2F9E9 d2F9EA d2F9EB",
    "d2F9EC d2F9ED d2F9EE d2F9EF d2F9F0 d2F9F1 d2F9F2 d2F9F3 d2F9F4 d2F9F5 d2F9F6 d2F9F7 d2F9F8",
    "d2F9F9 d2F9FA d2F9FB d2F9FC d2F9FD d2F9FE d2F9FF d2FA00 d2FA01 d2FA02 d2FA03 d2FA04 d2FA05",
    "d2FA06 d2FA07 d2FA08 d2FA09 d2FA0A d2FA0B d2FA0C d2FA0D d2FA0E d2FA0F d2FA10 d2FA11 d2FA12",
    "d2FA13 d2FA14 d2FA15 d2FA16 d2FA17 d2FA18 d2FA19 d2FA1A d2FA1B d2FA1C d2FA1D dF900 dF901",
    "dF902 dF903 dF904 dF905 dF906 dF907 dF908 dF909 dF90A dF90B dF90C dF90D dF90E dF90F dF910",
    "dF911 dF912 dF913 dF914 dF915 dF916 dF917 dF918 dF919 dF91A dF91B dF91C dF91D dF91E dF91F",
    "dF920 dF921 dF922 dF923 dF924 dF925 dF926 dF927 dF928 dF929 dF92A dF92B dF92C dF92D dF92E",
    "dF92F dF930 dF931 dF932 dF933 dF934 dF935 dF936 dF937 dF938 dF939 dF93A dF93B dF93C dF93D",
    "dF93E dF93F dF940 dF941 dF942 dF943 dF944 dF945 dF946 dF947 dF948 dF949 dF94A dF94B dF94C",
    "dF94D dF94E dF94F dF950 dF951 dF952 dF953 dF954 dF955 dF956 dF957 dF958 dF959 dF95A dF95B",
    "dF95C dF95D dF95E dF95F dF960 dF961 dF962 dF963 dF964 dF965 dF966 dF967 dF968 dF969 dF96A",
    "dF96B dF96C dF96D dF96E dF96F dF970 dF971 dF972 dF973 dF974 dF975 dF976 dF977 dF978 dF979",
    "dF97A dF97B dF97C dF97D dF97E dF97F dF980 dF981 dF982 dF983 dF984 dF985 dF986 dF987 dF988",
    "dF989 dF98A dF98B dF98C dF98D dF98E dF98F dF990 dF991 dF992 dF993 dF994 dF995 dF996 dF997",
    "dF998 dF999 dF99A dF99B dF99C dF99D dF99E dF99F dF9A0 dF9A1 dF9A2 dF9A3 dF9A4 dF9A5 dF9A6",
    "dF9A7 dF9A8 dF9A9 dF9AA dF9AB dF9AC dF9AD dF9AE dF9AF dF9B0 dF9B1 dF9B2 dF9B3 dF9B4 dF9B5",
    "dF9B6 dF9B7 dF9B8 dF9B9 dF9BA dF9BB dF9BC dF9BD dF9BE dF9BF dF9C0 dF9C1 dF9C2 dF9C3 dF9C4",
    "dF9C5 dF9C6 dF9C7 dF9C8 dF9C9 dF9CA dF9CB dF9CC dF9CD dF9CE dF9CF dF9D0 dF9D1 dF9D2 dF9D3",
    "dF9D4 dF9D5 dF9D6 dF9D7 dF9D8 dF9D9 dF9DA dF9DB dF9DC dF9DD dF9DE dF9DF dF9E0 dF9E1 dF9E2",
    "dF9E3 dF9E4 dF9E5 dF9E6 dF9E7 dF9E8 dF9E9 dF9EA dF9EB dF9EC dF9ED dF9EE dF9EF dF9F0 dF9F1",
    "dF9F2 dF9F3 dF9F4 dF9F5 dF9F6 dF9F7 dF9F8 dF9F9 dF9FA dF9FB dF9FC dF9FD dF9FE dF9FF dFA00",
    "dFA01 dFA02 dFA03 dFA04 dFA05 dFA06 dFA07 dFA08 dFA09 dFA0A dFA0B dFA0C dFA0D dFA0E dFA0F",
    "dFA10 dFA11 dFA12 dFA13 dFA14 dFA15 dFA16 dFA17 dFA18 dFA19 dFA1A dFA1B dFA1C dFA1D dFA1E",
    "dFA1F dFA20 dFA21 dFA22 dFA23 dFA24 dFA25 dFA26 dFA27 dFA28 dFA29 dFA2A dFA2B dFA2C dFA2D",
    "dFA2E dFA2F dFA30 dFA31 dFA32 dFA33 dFA34 dFA35 dFA36 dFA37 dFA38 dFA39 dFA3A dFA3B dFA3C",
    "dFA3D dFA3E dFA3F dFA40 dFA41 dFA42 dFA43 dFA44 dFA45 dFA46 dFA47 dFA48 dFA49 dFA4A dFA4B",
    "dFA4C dFA4D dFA4E dFA4F dFA50 dFA51 dFA52 dFA53 dFA54 dFA55 dFA56 dFA57 dFA58 dFA59 dFA5A",
    "dFA5B dFA5C dFA5D dFA5E dFA5F dFA60 dFA61 dFA62 dFA63 dFA64 dFA65 dFA66 dFA67 dFA68 dFA69",
    "dFA6A dFA6B dFA6C dFA6D dFA70 dFA71 dFA72 dFA73 dFA74 dFA75 dFA76 dFA77 dFA78 dFA79 dFA7A",
    "dFA7B dFA7C dFA7D dFA7E dFA7F dFA80 dFA81 dFA82 dFA83 dFA84 dFA85 dFA86 dFA87 dFA88 dFA89",
    "dFA8A dFA8B dFA8C dFA8D dFA8E dFA8F dFA90 dFA91 dFA92 dFA93 dFA94 dFA95 dFA96 dFA97 dFA98",
    "dFA99 dFA9A dFA9B dFA9C dFA9D dFA9E dFA9F dFAA0 dFAA1 dFAA2 dFAA3 dFAA4 dFAA5 dFAA6 dFAA7",
    "dFAA8 dFAA9 dFAAA dFAAB dFAAC dFAAD dFAAE dFAAF dFAB0 dFAB1 dFAB2 dFAB3 dFAB4 dFAB5 dFAB6",
    "dFAB7 dFAB8 dFAB9 dFABA dFABB dFABC dFABD dFABE dFABF dFAC0 dFAC1 dFAC2 dFAC3 dFAC4 dFAC5",
    "dFAC6 dFAC7 dFAC8 dFAC9 dFACA dFACB dFACC dFACD dFACE dFACF dFAD0 dFAD1 dFAD2 dFAD3 dFAD4",
    "dFAD5 dFAD6 dFAD7 dFAD8 dFAD9 bRADICAL_ cBAMBOO cBLUE cBOLT_ dOF_ eCLOTH cBONE cBOX cBRUSH_",
    "dONE dTWO cC- dSIMPLIFIED_ eBIRD eCART eDRAGON eEAT eEVEN eFISH eFLY eFROG eGATE eGOLD",
    "eHORSE eLEAF eLONG eSALT eSEE eSHELL eSILK eSPEECH eTANNED_ fLEATHER eTOOTH eTURTLE eWIND",
    "cCHOKE cCITY cCIVILIAN cCLIFF cCLOTHES cCOW cDEATH cDIVINATION cDOG cEAT_ dONE dTHREE dTWO",
    "cEWE cEYE cFIRE cFOOT cGHOST cGRASS_ dONE dTHREE dTWO cHAND cHEAD cHEART_ dONE dTWO cHORN",
    "cJ- dSIMPLIFIED_ eDRAGON eEVEN eTOOTH eTURTLE cJADE cKNIFE_ dONE dTWO cLAME_ dFOUR dONE",
    "dTHREE dTWO cLONG_ dONE dTWO cMEAT cMESH cMOON cMORTAR cMOTHER cMOUND_ dONE dTWO cNET_",
    "dFOUR dONE dTHREE dTWO cOLD cPAW_ dONE dTWO cPERSON cRAIN cRAM cRAP cREPEAT cSEAL cSECOND_",
    "dONE dTHREE dTWO cSHEEP cSILK cSIMPLIFIED_ dHALF_ eTREE_ fTRUNK dHORN dWALK dWHEAT dYELLOW",
    "cSMALL_ dONE dTWO cSNAKE cSNOUT_ dONE dTWO cSPIRIT_ dONE dTWO cSUN cTABLE cTHREAD cTIGER",
    "cTURTLE cWALK_ dONE dTWO cWATER_ dONE dTWO cWEST_ dONE dTWO bSTROKE_ cBXG cD cH cHG cHP",
    "cHPWG cHXWG cHZ cHZG cHZT cHZW cHZWG cHZZ cHZZP cHZZZ cHZZZG cN cP cPD cPG cPZ cQ cS cSG",
    "cSP cST cSW cSWG cSWZ cSZ cSZWG cSZZ cT cTN cWG cXG aCLAMSHELL_ bMOBILE_ cPHONE aCLAPPER_",
    "bBOARD aCLAPPING_ bHANDS_ cSIGN aCLASSICAL_ bBUILDING aCLEAR_ bSCREEN_ cSYMBOL aCLINKING_",
    "bBEER_ cMUGS bGLASSES aCLIPBOARD aCLOCKWISE_ bCLOSED_ cCIRCLE_ dARROW bCONTOUR_ cINTEGRAL",
    "bDOWNWARDS_ cAND_ dUPWARDS_ eOPEN_ fCIRCLE_ gARROWS bGAPPED_ cCIRCLE_ dARROW bINTEGRAL",
    "bOPEN_ cCIRCLE_ dARROW bRIGHTWARDS_ cAND_ dLEFTWARDS_ eOPEN_ fCIRCLE_ gARROWS gARROWS_",
    "hWITH_ iCIRCLED_ jONE_ kOVERLAY bRIGHT_ cAND_ dLEFT_ eSEMICIRCLE_ fARROWS bTOP_",
    "cSEMICIRCLE_ dARROW bTRIANGLE- cHEADED_ dOPEN_ eCIRCLE_ fARROW aCLOCK_ bFACE_ cEIGHT-",
    "dTHIRTY cEIGHT_ dOCLOCK cELEVEN- dTHIRTY cELEVEN_ dOCLOCK cFIVE- dTHIRTY cFIVE_ dOCLOCK",
    "cFOUR- dTHIRTY cFOUR_ dOCLOCK cNINE- dTHIRTY cNINE_ dOCLOCK cONE- dTHIRTY cONE_ dOCLOCK",
    "cSEVEN- dTHIRTY cSEVEN_ dOCLOCK cSIX- dTHIRTY cSIX_ dOCLOCK cTEN- dTHIRTY cTEN_ dOCLOCK",
    "cTHREE- dTHIRTY cTHREE_ dOCLOCK cTWELVE- dTHIRTY cTWELVE_ dOCLOCK cTWO- dTHIRTY cTWO_",
    "dOCLOCK aCLOSED_ bBOOK bINTERSECTION_ cWITH_ dSERIFS bLOCK_ cWITH_ dKEY bMAILBOX_ cWITH_",
    "dLOWERED_ eFLAG dRAISED_ eFLAG bSUBSET bSUBSET_ cOR_ dEQUAL_ eTO bSUPERSET bSUPERSET_ cOR_",
    "dEQUAL_ eTO bUMBRELLA bUNION_ cWITH_ dSERIFS dSERIFS_ eAND_ fSMASH_ gPRODUCT aCLOSE_ bUP",
    "aCLOUD aCLOUD_ bWITH_ cLIGHTNING cRAIN cSNOW cTORNADO aCLOWN_ bFACE aCOAT aCOCKROACH",
    "aCOCKTAIL_ bGLASS aCOCONUT aCOFFIN aCOIN aCOLLISION_ bSYMBOL aCOLON aCOLON_ bEQUALS bSIGN",
    "aCOMBINING_ bACUTE- cGRAVE- dACUTE cMACRON bACUTE_ cACCENT cACCENT_ dBELOW cTONE_ dMARK",
    "bALMOST_ cEQUAL_ dTO_ eABOVE eBELOW bANNUITY_ cSYMBOL bANTICLOCKWISE_ cARROW_ dABOVE cRING_",
    "dOVERLAY bASTERISK_ cABOVE cBELOW bBINDU_ cBELOW bBREVE bBREVE- cMACRON bBREVE_ cBELOW",
    "bBRIDGE_ cABOVE cBELOW bCANDRABINDU bCARON bCARON_ cBELOW bCEDILLA bCIRCUMFLEX_ cACCENT",
    "cACCENT_ dBELOW bCLOCKWISE_ cARROW_ dABOVE cRING_ dOVERLAY bCOMMA_ cABOVE cABOVE_ dRIGHT",
    "cBELOW bCONJOINING_ cMACRON cMACRON_ dBELOW bCYRILLIC_ cDASIA_ dPNEUMATA cHUNDRED_",
    "dMILLIONS_ eSIGN dTHOUSANDS_ eSIGN cKAVYKA cLETTER_ dA dBE dBIG_ eYUS dCHE dDE dDJERV dEF",
    "dEL dEM dEN dER dES dES- eTE dFITA dGHE dHA dHARD_ eSIGN dI dIE dIOTIFIED_ eA eBIG_ fYUS eE",
    "dKA dLITTLE_ eYUS dMONOGRAPH_ eUK dO dOMEGA dPE dSHA dSHCHA dSOFT_ eSIGN dTE dTSE dU",
    "dUKRAINIAN_ eIE dVE dYAT dYERU dYI dYU dZE dZHE cMILLIONS_ dSIGN cPALATALIZATION cPAYEROK",
    "cPOKRYTIE cPSILI_ dPNEUMATA cTEN_ dMILLIONS_ eSIGN cTHOUSAND_ dMILLIONS_ eSIGN cTITLO",
    "cTITLO_ dLEFT_ eHALF dRIGHT_ eHALF cVZMET bDELETION_ cMARK bDEVANAGARI_ cDIGIT_ dEIGHT",
    "dFIVE dFOUR dNINE dONE dSEVEN dSIX dTHREE dTWO dZERO cLETTER_ dA dKA dNA dPA dRA dU dVI",
    "cSIGN_ dAVAGRAHA bDIAERESIS bDIAERESIS- cRING bDIAERESIS_ cBELOW bDOTTED_ cACUTE_ dACCENT",
    "cGRAVE_ dACCENT bDOT_ cABOVE cABOVE_ dLEFT dRIGHT cBELOW cBELOW_ dLEFT bDOUBLED_",
    "cCIRCUMFLEX_ dACCENT bDOUBLE_ cACUTE_ dACCENT cBREVE cBREVE_ dBELOW cCIRCUMFLEX_ dABOVE",
    "cGRAVE_ dACCENT cINVERTED_ dBREVE dBREVE_ eBELOW cLOW_ dLINE cMACRON cMACRON_ dBELOW cOPEN_",
    "dMARK_ eBELOW cOVERLINE cPARENTHESES_ dABOVE cPLUS_ dSIGN_ eABOVE eBELOW cRIGHTWARDS_",
    "dARROW_ eBELOW cRING_ dBELOW cTILDE cTILDE_ dLEFT_ eHALF dRIGHT_ eHALF cVERTICAL_ dLINE_",
    "eABOVE eBELOW dSTROKE_ eOVERLAY bDOWNWARDS_ cARROW bDOWN_ cTACK_ dBELOW bENCLOSING_ cCIRCLE",
    "cCIRCLE_ dBACKSLASH cDIAMOND cKEYCAP cSCREEN cSQUARE cUPWARD_ dPOINTING_ eTRIANGLE bEQUALS_",
    "cSIGN_ dBELOW bFERMATA bFOUR_ cDOTS_ dABOVE bGLAGOLITIC_ cLETTER_ dAZU dBIG_ eYUS dBUKY",
    "dCHRIVI dDJERVI dDOBRO dFITA dFRITU dGLAGOLI dHERU dI dINITIAL_ eIZHE dIOTATED_ eBIG_ fYUS",
    "eSMALL_ fYUS dIZHE dKAKO dLJUDIJE dMYSLITE dNASHI dONU dPOKOJI dRITSI dSHA dSHTA dSLOVO",
    "dSMALL_ eYUS dTSI dTVRIDO dUKU dVEDE dYATI dYERI dYERU dYESTU dYO dYU dZEMLJA dZHIVETE",
    "bGRANTHA_ cDIGIT_ dFIVE dFOUR dONE dSIX dTHREE dTWO dZERO cLETTER_ dA dKA dNA dPA dVI",
    "bGRAPHEME_ cJOINER bGRAVE- cACUTE- dGRAVE cMACRON bGRAVE_ cACCENT cACCENT_ dBELOW cTONE_",
    "dMARK bGREEK_ cDIALYTIKA_ dTONOS cKORONIS cMUSICAL_ dPENTASEME dTETRASEME dTRISEME",
    "cPERISPOMENI cYPOGEGRAMMENI bHOMOTHETIC_ cABOVE bHOOK_ cABOVE bHORN bINFINITY bINVERTED_",
    "cBREVE cBREVE_ dBELOW cBRIDGE_ dBELOW cDOUBLE_ dARCH_ eABOVE eBELOW bIS_ cBELOW bKATAKANA-",
    "cHIRAGANA_ dSEMI- eVOICED_ fSOUND_ gMARK dVOICED_ eSOUND_ fMARK bKAVYKA_ cABOVE_ dLEFT",
    "dRIGHT bLATIN_ cLETTER_ dSMALL_ eCAPITAL_ fG fL fM fN fR cSMALL_ dLETTER_ eA eAE eALPHA eAO",
    "eAV eA_ fWITH_ gDIAERESIS eB eBETA eC eC_ fCEDILLA eD eE eESH eETH eF eFLATTENED_ fOPEN_",
    "gA_ hABOVE eG eH eI eINSULAR_ fD fG fR fT eK eL eLONG_ fS eL_ fWITH_ gDOUBLE_ hMIDDLE_",
    "iTILDE eM eN eO eO_ fWITH_ gDIAERESIS gLIGHT_ hCENTRALIZATION_ iSTROKE eP eR eR_ fBELOW",
    "fROTUNDA eS eSCHWA eT eTURNED_ fW_ gBELOW eU eU_ fWITH_ gDIAERESIS gLIGHT_ hCENTRALIZATION_",
    "iSTROKE eV eW eW_ fBELOW eX eZ bLEFTWARDS_ cARROW_ dOVERLAY cHARPOON_ dWITH_ eBARB_",
    "fDOWNWARDS bLEFT_ cANGLE_ dABOVE dBELOW cARROWHEAD_ dABOVE dBELOW cARROW_ dABOVE dBELOW",
    "cHALF_ dRING_ eABOVE eBELOW cHARPOON_ dABOVE cPARENTHESIS_ dABOVE_ eLEFT dBELOW_ eLEFT",
    "cRIGHT_ dARROW_ eABOVE eBELOW cTACK_ dBELOW bLIGATURE_ cLEFT_ dHALF dHALF_ eBELOW cRIGHT_",
    "dHALF dHALF_ eBELOW bLIGHT_ cCENTRALIZATION_ dSTROKE_ eBELOW bLONG_ cDOUBLE_ dSOLIDUS_",
    "eOVERLAY cSOLIDUS_ dOVERLAY cSTROKE_ dOVERLAY cVERTICAL_ dLINE_ eOVERLAY bLOW_ cLINE",
    "bMACRON bMACRON- cACUTE cBREVE cGRAVE bMACRON_ cBELOW cLEFT_ dHALF dHALF_ eBELOW cRIGHT_",
    "dHALF dHALF_ eBELOW bMINUS_ cSIGN_ dBELOW bNOT_ cTILDE_ dABOVE bNUMBER_ cSIGN_ dABOVE",
    "bOGONEK bOGONEK_ cABOVE bOLD_ cPERMIC_ dLETTER_ eAN eDOI eNENOE eSII eZATA bOPEN_ cMARK_",
    "dBELOW bOVERLINE bPALATALIZED_ cHOOK_ dBELOW bPARENTHESES_ cABOVE cBELOW cOVERLAY bPLUS_",
    "cSIGN_ dABOVE dBELOW bRETROFLEX_ cHOOK_ dBELOW bREVERSED_ cCOMMA_ dABOVE bREVERSE_",
    "cSOLIDUS_ dOVERLAY bRIGHTWARDS_ cHARPOON_ dWITH_ eBARB_ fDOWNWARDS bRIGHT_ cARROWHEAD_",
    "dABOVE dAND_ eDOWN_ fARROWHEAD_ gBELOW eUP_ fARROWHEAD_ gBELOW dBELOW cARROW_ dABOVE dBELOW",
    "cHALF_ dRING_ eABOVE eBELOW cHARPOON_ dABOVE cPARENTHESIS_ dABOVE_ eRIGHT dBELOW_ eRIGHT",
    "cTACK_ dBELOW bRING_ cABOVE cBELOW cOVERLAY bSEAGULL_ cBELOW bSHORT_ cSOLIDUS_ dOVERLAY",
    "cSTROKE_ dOVERLAY cVERTICAL_ dLINE_ eOVERLAY bSNAKE_ cBELOW bSQUARE_ cBELOW cBRACKETS_",
    "dABOVE bSTRONG_ cCENTRALIZATION_ dSTROKE_ eBELOW bSUSPENSION_ cMARK bTHREE_ cDOTS_ dABOVE",
    "bTILDE bTILDE_ cBELOW cLEFT_ dHALF_ eBELOW cOVERLAY cRIGHT_ dHALF_ eBELOW bTRIPLE_ cACUTE_",
    "dACCENT cDOT cUNDERDOT bTURNED_ cCOMMA_ dABOVE bUPWARDS_ cARROW_ dBELOW bUP_ cTACK_ dABOVE",
    "dBELOW bUR_ cABOVE bUS_ cABOVE bVERTICAL_ cLINE_ dABOVE dBELOW cTILDE bWIDE_ cBRIDGE_",
    "dABOVE cINVERTED_ dBRIDGE_ eBELOW bWIGGLY_ cLINE_ dBELOW bX- cX_ dBELOW bX_ cABOVE cBELOW",
    "bZIGZAG_ cABOVE cBELOW aCOMET aCOMMA aCOMMERCIAL_ bAT bMINUS_ cSIGN aCOMPASS aCOMPLEMENT",
    "aCOMPOSITION_ bSYMBOL aCOMPRESSION aCONFETTI_ bBALL aCONFOUNDED_ bFACE aCONFUSED_ bFACE",
    "aCONGRUENT_ bWITH_ cDOT_ dABOVE aCONICAL_ bTAPER aCONJUNCTION aCONSTRUCTION_ bSIGN bWORKER",
    "aCONTAINS_ bAS_ cMEMBER cNORMAL_ dSUBGROUP dSUBGROUP_ eOR_ fEQUAL_ gTO bWITH_ cLONG_",
    "dHORIZONTAL_ eSTROKE cOVERBAR cVERTICAL_ dBAR_ eAT_ fEND_ gOF_ hHORIZONTAL_ iSTROKE",
    "aCONTINUOUS_ bUNDERLINE_ cSYMBOL aCONTOUR_ bINTEGRAL aCONTROL_ bKNOBS bSEQUENCE_",
    "cINTRODUCER aCONVENIENCE_ bSTORE aCOOKED_ bRICE aCOOKIE aCOOKING aCOPTIC_ bCAPITAL_",
    "cLETTER_ dAKHMIMIC_ eKHEI dALFA dBOHAIRIC_ eKHEI dCROSSED_ eSHEI dCRYPTOGRAMMIC_ eEIE",
    "eGANGIA eNI eSHEI dDALDA dDEI dDIALECT- eP_ fALEF fHORI fKAPA fNI dEIE dFEI dFI dGAMMA",
    "dGANGIA dHATE dHORI dIAUDA dKAPA dKHEI dKHI dKSI dL- eSHAPED_ fHA dLAULA dMI dNI dO dOLD_",
    "eCOPTIC_ fAIN fDJA fESH fGANGIA fHA fHAT fHEI fHORI fOOU fSHEI fSHIMA eNUBIAN_ fNGI fNYI",
    "fSHIMA fWAU dOOU dPI dPSI dRO dSAMPI dSHEI dSHIMA dSIMA dSOU dTAU dTHETHE dUA dVIDA dZATA",
    "bCOMBINING_ cNI_ dABOVE cSPIRITUS_ dASPER dLENIS bEPACT_ cDIGIT_ dEIGHT dFIVE dFOUR dNINE",
    "dONE dSEVEN dSIX dTHREE dTWO cNUMBER_ dEIGHTY dEIGHT_ eHUNDRED dFIFTY dFIVE_ eHUNDRED",
    "dFORTY dFOUR_ eHUNDRED dNINETY dNINE_ eHUNDRED dONE_ eHUNDRED dSEVENTY dSEVEN_ eHUNDRED",
    "dSIXTY dSIX_ eHUNDRED dTEN dTHIRTY dTHREE_ eHUNDRED dTWENTY dTWO_ eHUNDRED cTHOUSANDS_",
    "dMARK bFRACTION_ cONE_ dHALF bFULL_ cSTOP bMORPHOLOGICAL_ cDIVIDER bOLD_ cNUBIAN_ dDIRECT_",
    "eQUESTION_ fMARK dFULL_ eSTOP dINDIRECT_ eQUESTION_ fMARK dVERSE_ eDIVIDER bSMALL_ cLETTER_",
    "dAKHMIMIC_ eKHEI dALFA dBOHAIRIC_ eKHEI dCROSSED_ eSHEI dCRYPTOGRAMMIC_ eEIE eGANGIA eNI",
    "eSHEI dDALDA dDEI dDIALECT- eP_ fALEF fHORI fKAPA fNI dEIE dFEI dFI dGAMMA dGANGIA dHATE",
    "dHORI dIAUDA dKAPA dKHEI dKHI dKSI dL- eSHAPED_ fHA dLAULA dMI dNI dO dOLD_ eCOPTIC_ fAIN",
    "fDJA fESH fGANGIA fHA fHAT fHEI fHORI fOOU fSHEI fSHIMA eNUBIAN_ fNGI fNYI fSHIMA fWAU dOOU",
    "dPI dPSI dRO dSAMPI dSHEI dSHIMA dSIMA dSOU dTAU dTHETHE dUA dVIDA dZATA bSYMBOL_ cKAI",
    "cKHI_ dRO cMI_ dRO cPI_ dRO cSHIMA_ dSIMA cSTAUROS cTAU_ dRO aCOPYLEFT_ bSYMBOL aCOPYRIGHT_",
    "bSIGN aCORAL aCORNISH_ bVERSE_ cDIVIDER aCORRESPONDS_ bTO aCOUCH_ bAND_ cLAMP aCOUNTERBORE",
    "aCOUNTERSINK aCOUNTING_ bROD_ cTENS_ dDIGIT_ eEIGHT eFIVE eFOUR eNINE eONE eSEVEN eSIX",
    "eTHREE eTWO cUNIT_ dDIGIT_ eEIGHT eFIVE eFOUR eNINE eONE eSEVEN eSIX eTHREE eTWO aCOUPLE_",
    "bWITH_ cHEART aCOW aCOW_ bFACE aCR aCRAB aCREDIT_ bCARD aCRESCENT_ bMOON aCRICKET aCRICKET_",
    "bBAT_ cAND_ dBALL aCROCODILE aCROISSANT aCROSSED_ bFLAGS bNEGATIVE_ cSQUARED_ dLATIN_",
    "eCAPITAL_ fLETTER_ gP bSWORDS aCROSSING_ bLANES aCROSS_ bMARK bOF_ cJERUSALEM cLORRAINE",
    "bPATTY_ cWITH_ dLEFT_ eCROSSBAR dRIGHT_ eCROSSBAR bPOMMEE bPOMMEE_ cWITH_ dHALF- eCIRCLE_",
    "fBELOW aCROWN aCRUTCH aCRUZEIRO_ bSIGN aCRYING_ bCAT_ cFACE bFACE aCRYSTAL_ bBALL aCSI",
    "aCUBE_ bROOT aCUCUMBER aCUNEIFORM_ bNUMERIC_ cSIGN_ dEIGHT_ eASH eDISH eGESH2 eSHAR2 eU eU_",
    "fVARIANT_ gFORM eVARIANT_ fFORM_ gUSSU gUSSU3 dELAMITE_ eFIFTY eFORTY eONE_ fTHIRD eTWO_",
    "fTHIRDS dFIVE_ eASH eASH_ fTENU eBAN2 eBAN2_ fVARIANT_ gFORM eBURU eDISH eGESH2 eGESHU",
    "eSHAR2 eSHARU eSIXTHS_ fDISH eU eU_ fVARIANT_ gFORM dFOUR_ eASH eASH_ fTENU eBAN2 eBAN2_",
    "fVARIANT_ gFORM eBURU eDISH eGESH2 eGESHU eSHAR2 eSHARU eU eU_ fVARIANT_ gFORM eVARIANT_",
    "fFORM_ gLIMMU gLIMMU4 gLIMMU_ hA hB dNIGIDAESH dNIGIDAMIN dNINE_ eASH eDISH eGESH2 eSHAR2",
    "eU eU_ fVARIANT_ gFORM eVARIANT_ fFORM_ gILIMMU gILIMMU3 gILIMMU4 gILIMMU_ hA dOLD_",
    "eASSYRIAN_ fONE_ gQUARTER gSIXTH dONE_ eBAN2 eBURU eEIGHTH_ fASH eESHE3 eGESH2 eGESHU",
    "eHALF_ fGUR eQUARTER_ fASH fGUR eSHARU eTHIRD_ fDISH fVARIANT_ gFORM_ hA dSEVEN_ eASH eDISH",
    "eGESH2 eSHAR2 eU eU_ fVARIANT_ gFORM eVARIANT_ fFORM_ gIMIN3 gIMIN_ hA hB dSHAR2_ eTIMES_",
    "fGAL_ gPLUS_ hDISH hMIN dSIX_ eASH eASH_ fTENU eDISH eGESH2 eSHAR2 eU eU_ fVARIANT_ gFORM",
    "eVARIANT_ fFORM_ gASH9 dTHREE_ eASH eASH_ fTENU eBAN2 eBURU eBURU_ fVARIANT_ gFORM eDISH",
    "eGESH2 eGESHU eSHAR2 eSHAR2_ fVARIANT_ gFORM eSHARU eSHARU_ fVARIANT_ gFORM eVARIANT_",
    "fFORM_ gESH16 gESH21 dTWO_ eASH eASH_ fTENU eBAN2 eBURU eESHE3 eGESH2 eGESHU eSHAR2 eSHARU",
    "eTHIRDS_ fDISH fVARIANT_ gFORM_ hA bPUNCTUATION_ cSIGN_ dDIAGONAL_ eCOLON eQUADCOLON",
    "eTRICOLON dOLD_ eASSYRIAN_ fWORD_ gDIVIDER dVERTICAL_ eCOLON bSIGN_ cA cA2 cAB cAB2 cAB2_",
    "dTIMES_ eA eBALAG eGAN2_ fTENU eME_ fPLUS_ gEN eSHA3 eTAK4 cAB_ dGUNU dTIMES_ eASH2 eDUN3_",
    "fGUNU eGAL eGAN2_ fTENU eHA eIGI_ fGUNU eIMIN eLAGAB eNUN eNUN_ fTENU eSHESH eSHU2 eU_",
    "fPLUS_ gU_ hPLUS_ iU cAD cAD_ dTIMES_ eESH2 cAK cAK_ dTIMES_ eERIN2 eSHITA_ fPLUS_ gGISH",
    "cAL cALAN cALEPH cAL_ dTIMES_ eAL eDIM2 eGISH eHA eKAD3 eKI eSHE eUSH cAMAR cAMAR_ dTIMES_",
    "eKUG eSHE cAN cANSHE cAN_ dOVER_ eAN dPLUS_ eNAGA_ fOPPOSING_ gAN_ hPLUS_ iNAGA fSQUARED",
    "dTHREE_ eTIMES cAPIN cARAD cARAD_ dTIMES_ eKUR cARKAB cASAL2 cASH cASH2 cASHGAB cASH_",
    "dKABA_ eTENU dOVER_ eASH_ fOVER_ gASH gASH_ hCROSSING_ iASH_ jOVER_ kASH_ lOVER_ mASH",
    "fTUG2_ gOVER_ hTUG2_ iTUG2_ jOVER_ kTUG2_ lPAP dZIDA_ eTENU cA_ dTIMES_ eA eBAD eGAN2_",
    "fTENU eHA eIGI eLAGAR_ fGUNU eMUSH eSAG cBA cBAD cBAD_ dTIMES_ eDISH_ fTENU cBAG3 cBAHAR2",
    "cBAHAR2_ dTIMES_ eAB2 eNI eZA cBAL cBALAG cBAL_ dOVER_ eBAL cBAR cBARA2 cBI cBI_ dTIMES_ eA",
    "eGAR eIGI_ fGUNU cBU cBULUG cBULUG_ dOVER_ eBULUG cBUR cBUR2 cBU_ dCROSSING_ eBU dOVER_",
    "eBU_ fAB fTIMES_ gNA2 fUN cDA cDAG cDAG3 cDAG_ dKISIM5_ eTIMES_ fAMAR fA_ gPLUS_ hMASH",
    "fBALAG fBI fGA fGA_ gPLUS_ hMASH fGI fGIR2 fGUD fHA fIR fIR_ gPLUS_ hLU fKAK fLA fLU fLUM",
    "fLU_ gPLUS_ hMASH2 fNE fPAP_ gPLUS_ hPAP fSI fTAK4 fU2_ gPLUS_ hGIR2 hMASH fUSH dTIMES_",
    "eKUR cDAM cDAR cDARA3 cDARA4 cDA_ dTIMES_ eTAK4 cDI cDIB cDIM cDIM2 cDIM2_ dTIMES_ eUD",
    "cDIM_ dTIMES_ eIGI eSHE eU_ fU_ gU cDIN cDIN_ dKASKAL_ eU_ fGUNU_ gDISH cDISH cDISH_ dPLUS_",
    "eSHU cDU cDUB cDUB2 cDUB_ dTIMES_ eESH2 eSHE cDUG cDUGUD cDUG_ dTIMES_ eANSHE eASH eASH_",
    "fAT_ gLEFT eDIN eDUN eERIN2 eGA eGI eGIR2_ fGUNU eGISH eHA eHI eIGI_ fGUNU eKASKAL eKUR",
    "eKUSHU2 eKUSHU2_ fPLUS_ gKASKAL eLAK- f020 eLAM eLAM_ fTIMES_ gKUR eLUH_ fPLUS_ gGISH eMASH",
    "eMES eMI eNI ePI eSHE eSI_ fGUNU cDUH cDUN cDUN3 cDUN3_ dGUNU dGUNU_ eGUNU cDUN4 cDUR2 cDU_",
    "dGUNU dOVER_ eDU dSHESHIG cE cE2 cE2_ dTIMES_ eA_ fPLUS_ gHA_ hPLUS_ iDA eGAR eKUR eMI ePAP",
    "eSAL eSHE eU cEDIN cEGIR cEL cEN cEN_ dCROSSING_ eEN dOPPOSING_ eEN dSQUARED dTIMES_ eGAN2",
    "eGAN2_ fTENU eME cEREN cERIN2 cERIN2_ dX cESH2 cESH2_ dCROSSING_ eESH2 cEZEN cEZEN_",
    "dSHESHIG_ eTIMES_ fASH fHI fIGI_ gGUNU fLA fLAL fME fMES fSU dTIMES_ eA eAN eA_ fPLUS_ gLAL",
    "gLAL_ hTIMES_ iLAL eBAD eDUN3_ fGUNU fGUNU_ gGUNU eGUD eHA eHA_ fGUNU eIGI_ fGUNU eKASKAL",
    "eKASKAL_ fSQUARED eKU3 eLA eLAL_ fTIMES_ gLAL eLI eLU eSHE eSU eU2 eUD cE_ dOVER_ eE_ fNUN_",
    "gOVER_ hNUN dTIMES_ ePAP cGA cGA2 cGA2_ dOVER_ eGA2 dTIMES_ eAB2_ fTENU_ gPLUS_ hTAB eAN",
    "eAN_ fPLUS_ gKAK_ hPLUS_ iA eASH eASH2 eASH2_ fPLUS_ gGAL eA_ fPLUS_ gDA_ hPLUS_ iHA gHA",
    "gIGI eBAD eBAHAR2 eBAR_ fPLUS_ gRA eBUR eBUR_ fPLUS_ gRA eDA eDI eDIM_ fGUNU fTIMES_ gSHE",
    "eDUB eDUG_ fTIMES_ gIGI_ hGUNU gKASKAL eEL eEL_ fPLUS_ gLA eEN eEN_ fTIMES_ gGAN2_ hTENU",
    "eEREN eGA eGAN2_ fTENU eGAR eGAR_ fPLUS_ gDI gNE eGI eGI4 eGI4_ fPLUS_ gA eGIR2_ fPLUS_ gSU",
    "eHAL eHAL_ fPLUS_ gLA eHA_ fPLUS_ gA gLU_ hPLUS_ iESH2 eHI_ fPLUS_ gLI eHUB2 eIGI_ fGUNU",
    "eISH_ fPLUS_ gHU_ hPLUS_ iASH eKAK eKASKAL eKID eKID_ fPLUS_ gLAL eKU3_ fPLUS_ gAN eKUSHU2_",
    "fPLUS_ gKASKAL eLA eLAM eLAM_ fTIMES_ gKUR eLUH eME_ fPLUS_ gEN eMI eMUSH eNE eNE_ fPLUS_",
    "gE2 gGI eNUN eNUN_ fOVER_ gNUN ePA eSAL eSAR eSHE eSHE_ fPLUS_ gTUR eSHID eSHIM eSUM eTAK4",
    "eU eUD eUD_ fPLUS_ gDU eZIZ2 cGABA cGABA_ dCROSSING_ eGABA dROTATED_ eNINETY_ fDEGREES cGAD",
    "cGAD_ dOVER_ eGAD_ fGAR_ gOVER_ hGAR cGAL cGALAM cGAL_ dGAD_ eOVER_ fGAD_ gGAR_ hOVER_ iGAR",
    "cGAM cGAN cGAN2 cGAN2_ dCROSSING_ eGAN2 dOVER_ eGAN2 dTENU cGAR cGAR3 cGASHAN cGA_ dGUNU",
    "cGE22 cGESHTIN cGESHTIN_ dTIMES_ eKUR eU cGI cGI4 cGI4_ dCROSSING_ eGI4 dOVER_ eGI4 cGIDIM",
    "cGIG cGIR2 cGIR2_ dGUNU cGIR3 cGIR3_ dTIMES_ eA_ fPLUS_ gIGI eGAN2_ fTENU eIGI eLU_ fPLUS_",
    "gIGI ePA cGISAL cGISH cGISH_ dCROSSING_ eGISH dTENU dTIMES_ eBAD eGISH_ fCROSSING_ gGISH",
    "eTAK4 cGI_ dCROSSING_ eGI dTIMES_ eE eU cGU cGU2 cGU2_ dGUNU dTIMES_ eIGI_ fGUNU eKAK eKAK_",
    "fTIMES_ gIGI_ hGUNU eNUN eSAL_ fPLUS_ gTUG2 cGUD cGUD_ dOVER_ eGUD_ fLUGAL dPLUS_ eGISH_",
    "fTIMES_ gTAK4 dTIMES_ eA_ fPLUS_ gKUR eKUR cGUL cGUM cGUM_ dTIMES_ eSHE cGUR cGUR7 cGURUN",
    "cGURUSH cGU_ dCROSSING_ eGU cHA cHAL cHA_ dGUNU dTENU dTENU_ eGUNU cHI cHI_ dTIMES_ eASH",
    "eASH2 eASH_ fOVER_ gHI_ hTIMES_ iASH eBAD eDISH eGAD eKIN eNUN eSHE eU cHU cHUB2 cHUB2_",
    "dTIMES_ eAN eHAL eKASKAL eLISH eUD cHUL2 cHUSH cI cIB cIDIM cIDIM_ dOVER_ eIDIM_ fBUR",
    "fSQUARED cIG cIGI cIGI_ dDIB dGUNU dOVER_ eIGI_ fSHIR_ gOVER_ hSHIR_ iUD_ jOVER_ kUD dRI",
    "cIL cIL2 cIL_ dTIMES_ eGAN2_ fTENU cIM cIMIN cIM_ dCROSSING_ eIM dOPPOSING_ eIM dSQUARED",
    "dTIMES_ eTAK4 cIN cIR cISH cI_ dA cKA cKA2 cKA2_ dCROSSING_ eKA2 cKAB cKAD2 cKAD3 cKAD4",
    "cKAD5 cKAD5_ dOVER_ eKAD5 cKAK cKAK_ dTIMES_ eIGI_ fGUNU cKAL cKAL_ dCROSSING_ eKAL dTIMES_",
    "eBAD cKAM2 cKAM4 cKAP_ dELAMITE cKASKAL cKASKAL_ dLAGAB_ eTIMES_ fU_ gOVER_ hLAGAB_ iTIMES_",
    "jU dOVER_ eKASKAL_ fLAGAB_ gTIMES_ hU_ iOVER_ jLAGAB_ kTIMES_ lU cKA_ dTIMES_ eA eAD eAD_",
    "fPLUS_ gKU3 eANSHE eASH2 eASH3 eBAD eBALAG eBAR eBI eBU eERIN2 eESH2 eGA eGAL eGAN2_ fTENU",
    "eGAR eGAR_ fPLUS_ gSHA3_ hPLUS_ iA eGI eGIR2 eGISH eGISH_ fCROSSING_ gGISH fPLUS_ gSAR eGU",
    "eGUD eGUR7 eHI_ fTIMES_ gASH2 eIGI eIM eKA eKAK eKI eKID eLI eLU eLUM eME eME_ fPLUS_ gDU",
    "gGI gTE eMI eMI_ fPLUS_ gNUNUZ eNE eNUN ePA ePI eRU eSA eSAR eSHA eSHE eSHID eSHU eSHUL",
    "eSIG eSUHUR eTAR eTU eU eU2 eUD eUMUM_ fTIMES_ gPA eUR eUR2 eUSH eU_ fU_ gU eZI cKESH2 cKI",
    "cKID cKIN cKISAL cKISH cKISIM5 cKISIM5_ dOVER_ eKISIM5 cKI_ dTIMES_ eBAD eU eUD cKU cKU3",
    "cKU4 cKU4_ dVARIANT_ eFORM cKU7 cKUL cKUL_ dGUNU cKUN cKUR cKUR_ dOPPOSING_ eKUR cKUSHU2",
    "cKU_ dOVER_ eHI_ fTIMES_ gASH2_ hKU_ iOVER_ jHI_ kTIMES_ lASH2 cKWU318 cLA cLAGAB cLAGAB_",
    "dSQUARED dTIMES_ eA eAL eAN eASH_ fZIDA_ gTENU eA_ fPLUS_ gDA_ hPLUS_ iHA gGAR gLAL eBAD",
    "eBI eDAR eEN eGA eGAR eGI eGUD eGUD_ fPLUS_ gGUD eHA eHAL eHI_ fTIMES_ gNUN eIGI_ fGUNU eIM",
    "eIM_ fPLUS_ gHA gLU eKI eKIN eKU3 eKUL eKUL_ fPLUS_ gHI_ hPLUS_ iA eLAGAB eLISH eLU eLUL",
    "eME eME_ fPLUS_ gEN eMUSH eNE eSHE_ fPLUS_ gSUM eSHITA_ fPLUS_ gGISH_ hPLUS_ iERIN2 hTENU",
    "eSHU2 eSHU2_ fPLUS_ gSHU2 eSUM eTAG eTAK4 eTE_ fPLUS_ gA_ hPLUS_ iSU_ jPLUS_ kNA eU eU2_",
    "fPLUS_ gASH eUD eUSH eU_ fPLUS_ gA gU_ hPLUS_ iU eZU_ fOVER_ gZU cLAGAR cLAGAR_ dGUNU",
    "dGUNU_ eOVER_ fLAGAR_ gGUNU_ hSHE dTIMES_ eSHE eSHE_ fPLUS_ gSUM cLAHSHU cLAK- d003 d021",
    "d025 d030 d050 d051 d062 d079_ eOVER_ fLAK- g079_ hGUNU d080 d081_ eOVER_ fLAK- g081 d092",
    "d130 d142 d210 d219 d220 d225 d228 d238 d265 d266 d343 d347 d348 d383 d384 d390 d441 d449",
    "d449_ eTIMES_ fGU fIGI fPAP_ gPLUS_ hLU3 hPAP_ iPLUS_ jLU3 fU2_ gPLUS_ hBA d450 d457 d470",
    "d483 d490 d492 d493 d495 d550 d608 d617 d617_ eTIMES_ fASH fBAD fDUN3_ gGUNU_ hGUNU fKU3",
    "fLA fTAR fTE fU2 fUD fURUDA d636 d648 d648_ eTIMES_ fDUB fGA fIGI fIGI_ gGUNU fNI fPAP_",
    "gPLUS_ hPAP_ iPLUS_ jLU3 fSHESH_ gPLUS_ hKI fUD fURUDA d724 d749 cLAL cLAL_ dTIMES_ eLAL",
    "cLAM cLAM_ dTIMES_ eKUR eKUR_ fPLUS_ gRU cLI cLIL cLIMMU2 cLISH cLU cLU2 cLU2_ dCROSSING_",
    "eLU2 dGUNU_ eTIMES_ fASH dOPPOSING_ eLU2 dSHESHIG dSHESHIG_ eTIMES_ fBAD dSQUARED dTENU",
    "dTIMES_ eAL eBAD eDISH eESH2 eESH2_ fPLUS_ gLAL fTENU eGAN2_ fTENU eHAL eHI_ fTIMES_ gBAD",
    "eIM eKAD2 eKAD3 eKAD3_ fPLUS_ gASH eKI eLAGAB eLA_ fPLUS_ gASH eME_ fPLUS_ gEN eNE eNU ePAP",
    "ePAP_ fPLUS_ gPAP_ hPLUS_ iLU3 eSHU eSIK2_ fPLUS_ gBU eSI_ fPLUS_ gASH eTAK4 eTUG2 cLU3",
    "cLUGAL cLUGAL_ dOPPOSING_ eLUGAL dOVER_ eLUGAL dSHESHIG cLUH cLUL cLUM cLUM_ dOVER_ eLUM",
    "eLUM_ fGAR_ gOVER_ hGAR cLU_ dTIMES_ eBAD cMA cMA2 cMAH cMAR cMASH cMASH2 cMA_ dGUNU",
    "dTIMES_ eTAK4 cME cMES cMESH cMI cMIN cMI_ dPLUS_ eZA7 cMU cMUG cMUG_ dGUNU cMUNSUB cMURGU2",
    "cMUSH cMUSH3 cMUSH3_ dGUNU dTIMES_ eA eA_ fPLUS_ gDI eDI eZA cMUSH_ dCROSSING_ eMUSH dOVER_",
    "eMUSH eMUSH_ fTIMES_ gA_ hPLUS_ iNA gGA gKAK dTIMES_ eA eKUR eZA cMU_ dOVER_ eMU cNA cNA2",
    "cNA4 cNAGA cNAGAR cNAGA_ dINVERTED dOPPOSING_ eNAGA dTIMES_ eSHU_ fTENU cNAM cNAM2 cNAM_",
    "dNUTILLU cNE cNE_ dSHESHIG dTIMES_ eA eUD cNI cNI2 cNIM cNIM_ dTIMES_ eGAN2_ fTENU eGAR_",
    "fPLUS_ gGAN2_ hTENU cNIN cNIN9 cNINDA2 cNINDA2_ dTIMES_ eAN eASH eASH_ fPLUS_ gASH eBAL",
    "eDIM_ fGUNU eGI eGISH eGUD eGUL eHI eKESH2 eLAK- f050 eMASH eME_ fPLUS_ gGAN2_ hTENU eNE",
    "eNUN ePAP_ fPLUS_ gPAP eSHE eSHE_ fPLUS_ gASH gASH_ hPLUS_ iASH gA_ hAN eU eU2_ fPLUS_ gASH",
    "eURUDA eUSH eU_ fPLUS_ gU cNISAG cNI_ dTIMES_ eE cNU cNU11 cNU11_ dOVER_ eNU11_ fBUR_",
    "gOVER_ hBUR dROTATED_ eNINETY_ fDEGREES dTENU cNUN cNUNUZ cNUNUZ_ dAB2_ eTIMES_ fASHGAB fBI",
    "fDUG fGUD fIGI_ gGUNU fKAD3 fLA fNE fSILA3 fU2 dKISIM5_ eTIMES_ fBI fBI_ gU cNUN_",
    "dCROSSING_ eNUN eNUN_ fLAGAR_ gOVER_ hLAGAR dLAGAR_ eTIMES_ fGAR fMASH fSAL fSAL_ gOVER_",
    "hNUN_ iLAGAR_ jTIMES_ kSAL fUSH dOVER_ eNUN dTENU cPA cPAD cPAN cPAP cPESH2 cPESH2_",
    "dASTERISK cPI cPIR2 cPIRIG cPIRIG_ dOPPOSING_ ePIRIG dTIMES_ eKAL eUD eZA cPI_ dCROSSING_",
    "ePI dTIMES_ eA eAB eBI eBU eE eI eIB eU eU2 cRA cRAB cRI cRU cSA cSAG cSAG_ dGUNU dGUNU_",
    "eTIMES_ fHA dNUTILLU dOVER_ eSAG dTIMES_ eA eDU eDUB eEN eHA eIGI_ fGUNU eKAK eKUR eLUM eMI",
    "eNUN eSAL eSHE_ fAT_ gLEFT eSHID eTAB eTAK4 eU2 eUB eUM eUR eUSH cSAL cSAL_ dLAGAB_ eTIMES_",
    "fASH2 cSANGA2 cSAR cSHA cSHA3 cSHA3_ dTIMES_ eA eBAD eGISH eNE eSHU2 eTUR eU eU_ fPLUS_ gA",
    "cSHA6 cSHA6_ dTENU cSHAB6 cSHAR2 cSHE cSHEG9 cSHEN cSHESH cSHESH2 cSHESHLAM cSHE_ dHU",
    "dOVER_ eSHE eSHE_ fGAD_ gOVER_ hGAD_ iGAR_ jOVER_ kGAR fTAB_ gOVER_ hTAB_ iGAR_ jOVER_ kGAR",
    "dPLUS_ eHUB2 eNAM2 eSAR cSHID cSHID_ dTIMES_ eA eIM cSHIM cSHIM_ dTIMES_ eA eBAL eBULUG",
    "eDIN eGAR eIGI eIGI_ fGUNU eKUSHU2 eLUL eMUG eSAL cSHINIG cSHIR cSHIR_ dOVER_ eSHIR_ fBUR_",
    "gOVER_ hBUR dTENU cSHITA cSHU cSHU2 cSHU2_ dPLUS_ eDUG_ fTIMES_ gNI eE2_ fTIMES_ gAN",
    "cSHUBUR cSHU_ dOVER_ eINVERTED_ fSHU cSI cSIG cSIG4 cSIG4_ dOVER_ eSIG4_ fSHU2 cSIK2 cSILA3",
    "cSI_ dGUNU dTIMES_ eTAK4 cSU cSUD cSUD2 cSUHUR cSUM cSUMASH cSUR cSUR9 cSU_ dOVER_ eSU cTA",
    "cTAB cTAB_ dOVER_ eTAB_ fNI_ gOVER_ hNI_ iDISH_ jOVER_ kDISH dSQUARED cTAG cTAG_ dTIMES_",
    "eBI eGUD eSHE eSHU eTUG2 eUD cTAK4 cTAK4_ dPLUS_ eSAG cTAR cTA_ dASTERISK dGUNU dTIMES_ eHI",
    "eMI cTE cTE_ dGUNU cTI cTI2 cTIL cTIR cTIR_ dOVER_ eTIR eTIR_ fGAD_ gOVER_ hGAD_ iGAR_",
    "jOVER_ kGAR dTIMES_ eTAK4 cTI_ dTENU cTU cTUG2 cTUK cTUM cTUM_ dTIMES_ eGAN2_ fTENU eTHREE_",
    "fDISH cTUR cTUR_ dOVER_ eTUR_ fZA_ gOVER_ hZA cU cU2 cUB cUD cUDUG cUD_ dGUNU dKUSHU2",
    "dSHESHIG dSHESHIG_ eTIMES_ fBAD dTIMES_ eBAD eMI eU_ fPLUS_ gU_ hPLUS_ iU iU_ jGUNU cUM",
    "cUMBIN cUMUM cUMUM_ dTIMES_ eKASKAL ePA cUM_ dTIMES_ eLAGAB eME eME_ fPLUS_ gDA eSHA3 eU",
    "cUN cUN_ dGUNU cUR cUR2 cUR2_ dINVERTED dTIMES_ eAL eA_ fPLUS_ gHA gNA eHA eNUN eU2 eU2_",
    "fPLUS_ gASH gBI eUD cUR4 cURI cURI3 cURU cURUDA cURUDA_ dTIMES_ eU cURU_ dTIMES_ eA eASHGAB",
    "eBAR eDARA3 eDUN eGA eGAL eGAN2_ fTENU eGAR eGU eHA eIGI eIM eISH eKI eLAK- f668 eLU3 eLUM",
    "eMIN ePA eSHE eSIG4 eTU eUD eURUDA eU_ fPLUS_ gGUD cUR_ dCROSSING_ eUR dSHESHIG cUSH cUSH2",
    "cUSHUMX cUSHX cUSH_ dTIMES_ eA eKU eKUR eTAK4 cUTUKI cUZ3 cUZ3_ dTIMES_ eKASKAL cUZU cU_",
    "dGUD dOVER_ eU_ fPA_ gOVER_ hPA_ iGAR_ jOVER_ kGAR fSUR_ gOVER_ hSUR fU_ gREVERSED_ hOVER_",
    "iU_ jREVERSED dU dU_ eU cZA cZA7 cZAG cZAMX cZA_ dSQUARED_ eTIMES_ fKUR dTENU cZE2 cZI cZI3",
    "cZIB cZIB_ dKABA_ eTENU cZIG cZIZ2 cZI_ dOVER_ eZI cZU cZU5 cZU5_ dTIMES_ eA eTHREE_ fDISH_",
    "gTENU cZUBUR cZUM cZU_ dOVER_ eZU_ fPLUS_ gSAR aCUPCAKE aCUPIDO aCUP_ bON_ cBLACK_ dSQUARE",
    "bWITH_ cSTRAW aCURLING_ bSTONE aCURLY_ bBRACKET_ cEXTENSION bLOGICAL_ cAND cOR bLOOP",
    "aCURRENCY_ bEXCHANGE bSIGN aCURRY_ bAND_ cRICE aCURVED_ bSTEM_ cPARAGRAPH_ dSIGN_ eORNAMENT",
    "aCUSTARD aCUSTOMS aCUT_ bOF_ cMEAT aCYCLONE aCYLINDRICITY aCYPRIOT_ bSYLLABLE_ cA cE cI cJA",
    "cJO cKA cKE cKI cKO cKU cLA cLE cLI cLO cLU cMA cME cMI cMO cMU cNA cNE cNI cNO cNU cO cPA",
    "cPE cPI cPO cPU cRA cRE cRI cRO cRU cSA cSE cSI cSO cSU cTA cTE cTI cTO cTU cU cWA cWE cWI",
    "cWO cXA cXE cZA cZO aCYPRO- bMINOAN_ cSIGN_ dCM001 dCM002 dCM004 dCM005 dCM006 dCM007",
    "dCM008 dCM009 dCM010 dCM011 dCM012 dCM012B dCM013 dCM015 dCM017 dCM019 dCM021 dCM023 dCM024",
    "dCM025 dCM026 dCM027 dCM028 dCM029 dCM030 dCM033 dCM034 dCM035 dCM036 dCM037 dCM038 dCM039",
    "dCM040 dCM041 dCM044 dCM046 dCM047 dCM049 dCM050 dCM051 dCM052 dCM053 dCM054 dCM055 dCM056",
    "dCM058 dCM059 dCM060 dCM061 dCM062 dCM063 dCM064 dCM066 dCM067 dCM068 dCM069 dCM070 dCM071",
    "dCM072 dCM073 dCM074 dCM075 dCM075B dCM076 dCM078 dCM079 dCM080 dCM081 dCM082 dCM083 dCM084",
    "dCM085 dCM086 dCM087 dCM088 dCM089 dCM090 dCM091 dCM092 dCM094 dCM095 dCM096 dCM097 dCM098",
    "dCM099 dCM100 dCM101 dCM102 dCM103 dCM104 dCM105 dCM107 dCM108 dCM109 dCM110 dCM112 dCM114",
    "dCM301 dCM302 aCYRILLIC_ bCAPITAL_ cLETTER_ dA dABKHASIAN_ eCHE eCHE_ fWITH_ gDESCENDER",
    "eDZE eHA dALEUT_ eKA dA_ eWITH_ fBREVE fDIAERESIS dBARRED_ eO eO_ fWITH_ gDIAERESIS",
    "dBASHKIR_ eKA dBE dBIG_ eYUS dBINOCULAR_ eO dBLENDED_ eYUS dBROAD_ eOMEGA dBYELORUSSIAN-",
    "eUKRAINIAN_ fI dCCHE dCHE dCHE_ eWITH_ fDESCENDER fDIAERESIS fVERTICAL_ gSTROKE dCLOSED_",
    "eLITTLE_ fYUS dCROSSED_ eO dDCHE dDE dDJE dDJERV dDOUBLE_ eMONOCULAR_ fO eO dDWE dDZE",
    "dDZELO dDZHE dDZWE dDZZE dDZZHE dE dEF dEL dEL_ eWITH_ fDESCENDER fHOOK fMIDDLE_ gHOOK",
    "fTAIL dEM dEM_ eWITH_ fTAIL dEN dEN_ eWITH_ fDESCENDER fHOOK fLEFT_ gHOOK fMIDDLE_ gHOOK",
    "fTAIL dER dER_ eWITH_ fTICK dES dES_ eWITH_ fDESCENDER dE_ eWITH_ fDIAERESIS dFITA dGHE",
    "dGHE_ eWITH_ fDESCENDER fMIDDLE_ gHOOK fSTROKE fSTROKE_ gAND_ hHOOK fUPTURN dGJE dHA dHARD_",
    "eSIGN dHA_ eWITH_ fDESCENDER fHOOK fSTROKE dHWE dI dIE dIE_ eWITH_ fBREVE fGRAVE dIO dIOTA",
    "dIOTIFIED_ eA eBIG_ fYUS eCLOSED_ fLITTLE_ gYUS eE eLITTLE_ fYUS eYAT dIZHITSA dIZHITSA_",
    "eWITH_ fDOUBLE_ gGRAVE_ hACCENT dI_ eWITH_ fDIAERESIS fGRAVE fMACRON dJE dKA dKA_ eWITH_",
    "fDESCENDER fHOOK fSTROKE fVERTICAL_ gSTROKE dKHAKASSIAN_ eCHE dKJE dKOMI_ eDE eDJE eDZJE",
    "eLJE eNJE eSJE eTJE eZJE dKOPPA dKSI dLHA dLITTLE_ eYUS dLJE dMONOCULAR_ eO dMONOGRAPH_ eUK",
    "dNEUTRAL_ eYER dNJE dO dOMEGA dOMEGA_ eWITH_ fTITLO dOT dO_ eWITH_ fDIAERESIS dPE dPE_",
    "eWITH_ fDESCENDER fMIDDLE_ gHOOK dPSI dQA dREVERSED_ eDZE eTSE eYU eZE dRHA dROUND_ eOMEGA",
    "dSCHWA dSCHWA_ eWITH_ fDIAERESIS dSEMISOFT_ eSIGN dSHA dSHCHA dSHHA dSHHA_ eWITH_",
    "fDESCENDER dSHORT_ eI eI_ fWITH_ gTAIL eU dSHWE dSOFT_ eDE eEL eEM eSIGN dSTRAIGHT_ eU eU_",
    "fWITH_ gSTROKE dTCHE dTE dTE_ eWITH_ fDESCENDER fMIDDLE_ gHOOK dTSE dTSHE dTSSE dTSWE dTWE",
    "dU dUK dUKRAINIAN_ eIE dU_ eWITH_ fDIAERESIS fDOUBLE_ gACUTE fMACRON dVE dWE dYA dYAE dYAT",
    "dYERU dYERU_ eWITH_ fBACK_ gYER fDIAERESIS dYI dYN dYU dZE dZEMLYA dZE_ eWITH_ fDESCENDER",
    "fDIAERESIS dZHE dZHE_ eWITH_ fBREVE fDESCENDER fDIAERESIS dZHWE cLIGATURE_ dA_ eIE dEN_",
    "eGHE dTE_ eTSE bKAVYKA bLETTER_ cMULTIOCULAR_ dO cPALOCHKA cSMALL_ dCAPITAL_ eEL bPAYEROK",
    "bSMALL_ cLETTER_ dA dABKHASIAN_ eCHE eCHE_ fWITH_ gDESCENDER eDZE eHA dALEUT_ eKA dA_",
    "eWITH_ fBREVE fDIAERESIS dBARRED_ eO eO_ fWITH_ gDIAERESIS dBASHKIR_ eKA dBE dBIG_ eYUS",
    "dBINOCULAR_ eO dBLENDED_ eYUS dBROAD_ eOMEGA dBYELORUSSIAN- eUKRAINIAN_ fI dCCHE dCHE dCHE_",
    "eWITH_ fDESCENDER fDIAERESIS fVERTICAL_ gSTROKE dCLOSED_ eLITTLE_ fYUS dCROSSED_ eO dDCHE",
    "dDE dDJE dDJERV dDOUBLE_ eMONOCULAR_ fO eO dDWE dDZE dDZELO dDZHE dDZWE dDZZE dDZZHE dE dEF",
    "dEL dEL_ eWITH_ fDESCENDER fHOOK fMIDDLE_ gHOOK fTAIL dEM dEM_ eWITH_ fTAIL dEN dEN_ eWITH_",
    "fDESCENDER fHOOK fLEFT_ gHOOK fMIDDLE_ gHOOK fTAIL dER dER_ eWITH_ fTICK dES dES_ eWITH_",
    "fDESCENDER dE_ eWITH_ fDIAERESIS dFITA dGHE dGHE_ eWITH_ fDESCENDER fMIDDLE_ gHOOK fSTROKE",
    "fSTROKE_ gAND_ hHOOK fUPTURN dGJE dHA dHARD_ eSIGN dHA_ eWITH_ fDESCENDER fHOOK fSTROKE",
    "dHWE dI dIE dIE_ eWITH_ fBREVE fGRAVE dIO dIOTA dIOTIFIED_ eA eBIG_ fYUS eCLOSED_ fLITTLE_",
    "gYUS eE eLITTLE_ fYUS eYAT dIZHITSA dIZHITSA_ eWITH_ fDOUBLE_ gGRAVE_ hACCENT dI_ eWITH_",
    "fDIAERESIS fGRAVE fMACRON dJE dKA dKA_ eWITH_ fDESCENDER fHOOK fSTROKE fVERTICAL_ gSTROKE",
    "dKHAKASSIAN_ eCHE dKJE dKOMI_ eDE eDJE eDZJE eLJE eNJE eSJE eTJE eZJE dKOPPA dKSI dLHA",
    "dLITTLE_ eYUS dLJE dLONG- eLEGGED_ fDE dMONOCULAR_ eO dMONOGRAPH_ eUK dNARROW_ eO dNEUTRAL_",
    "eYER dNJE dO dOMEGA dOMEGA_ eWITH_ fTITLO dOT dO_ eWITH_ fDIAERESIS dPALOCHKA dPE dPE_",
    "eWITH_ fDESCENDER fMIDDLE_ gHOOK dPSI dQA dREVERSED_ eDZE eTSE eYU eZE dRHA dROUNDED_ eVE",
    "dROUND_ eOMEGA dSCHWA dSCHWA_ eWITH_ fDIAERESIS dSEMISOFT_ eSIGN dSHA dSHCHA dSHHA dSHHA_",
    "eWITH_ fDESCENDER dSHORT_ eI eI_ fWITH_ gTAIL eU dSHWE dSOFT_ eDE eEL eEM eSIGN dSTRAIGHT_",
    "eU eU_ fWITH_ gSTROKE dTALL_ eHARD_ fSIGN eTE eYAT dTCHE dTE dTE_ eWITH_ fDESCENDER",
    "fMIDDLE_ gHOOK dTHREE- eLEGGED_ fTE dTSE dTSHE dTSSE dTSWE dTWE dU dUK dUKRAINIAN_ eIE",
    "dUNBLENDED_ eUK dU_ eWITH_ fDIAERESIS fDOUBLE_ gACUTE fMACRON dVE dWE dWIDE_ eES dYA dYAE",
    "dYAT dYERU dYERU_ eWITH_ fBACK_ gYER fDIAERESIS dYI dYN dYU dZE dZEMLYA dZE_ eWITH_",
    "fDESCENDER fDIAERESIS dZHE dZHE_ eWITH_ fBREVE fDESCENDER fDIAERESIS dZHWE cLIGATURE_ dA_",
    "eIE dEN_ eGHE dTE_ eTSE bTHOUSANDS_ cSIGN"]

end GoMetrics.Text.CharName
