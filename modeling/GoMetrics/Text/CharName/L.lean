/-!
Names of characters that begin with L, as a tree of their words (Unicode 14).
-/

namespace GoMetrics.Text.CharName

def namesL : List String :=
  ["aLABEL aLAB_ bCOAT aLACROSSE_ bSTICK_ cAND_ dBALL aLADDER aLADY_ bBEETLE aLANGUAGE_ bTAG",
    "aLAO_ bCANCELLATION_ cMARK bDIGIT_ cEIGHT cFIVE cFOUR cNINE cONE cSEVEN cSIX cTHREE cTWO",
    "cZERO bELLIPSIS bHO_ cMO cNO bKO_ cLA bLETTER_ cBO cCO cDO cFO_ dFAY dFON dSUNG dTAM cHO_",
    "dSUNG dTAM cKHMU_ dGO dNYO cKHO_ dSUNG dTAM cKO cLO cLO_ dLING dLOOT cMO cNGO cNO cNYO cO",
    "cPALI_ dBHA dCHA dDDA dDDHA dDHA dGHA dJHA dLLA dNNA dNYA dTTA dTTHA cPHO_ dSUNG dTAM cPO",
    "cRO cSANSKRIT_ dSHA dSSA cSO_ dSUNG dTAM cTHO_ dSUNG dTAM cTO cWO cYO bNIGGAHITA",
    "bSEMIVOWEL_ cSIGN_ dLO dNYO bSIGN_ cPALI_ dVIRAMA bTONE_ cMAI_ dCATAWA dEK dTHO dTI bVOWEL_",
    "cSIGN_ dA dAA dAI dAM dAY dE dEI dI dII dMAI_ eKAN eKON dO dU dUU dY dYY aLARGER_ bTHAN",
    "bTHAN_ cOR_ dEQUAL_ eTO aLARGE_ bBLUE_ cCIRCLE cDIAMOND cSQUARE bBROWN_ cCIRCLE cSQUARE",
    "bCIRCLE bDOWN_ cTACK bGREEN_ cCIRCLE cSQUARE bLEFT_ cTRIANGLE_ dOPERATOR bONE_ cDOT_ dOVER_",
    "eTWO_ fDOTS_ gPUNCTUATION cRING_ dOVER_ eTWO_ fRINGS_ gPUNCTUATION bORANGE_ cCIRCLE",
    "cDIAMOND cSQUARE bPURPLE_ cCIRCLE cSQUARE bRED_ cCIRCLE cSQUARE bTRIPLE_ cVERTICAL_ dBAR_",
    "eOPERATOR bTWO_ cDOTS_ dOVER_ eONE_ fDOT_ gPUNCTUATION cRINGS_ dOVER_ eONE_ fRING_",
    "gPUNCTUATION bUP_ cTACK bYELLOW_ cCIRCLE cSQUARE aLARI_ bSIGN aLAST_ bQUARTER_ cMOON cMOON_",
    "dSYMBOL dWITH_ eFACE aLATIN_ bCAPITAL_ cLETTER_ dA dAA dAE dAE_ eWITH_ fACUTE fMACRON",
    "dAFRICAN_ eD dALPHA dANGLICANA_ eW dAO dAU dAV dAV_ eWITH_ fHORIZONTAL_ gBAR dAY dA_ eWITH_",
    "fACUTE fBREVE fBREVE_ gAND_ hACUTE hDOT_ iBELOW hGRAVE hHOOK_ iABOVE hTILDE fCARON",
    "fCIRCUMFLEX fCIRCUMFLEX_ gAND_ hACUTE hDOT_ iBELOW hGRAVE hHOOK_ iABOVE hTILDE fDIAERESIS",
    "fDIAERESIS_ gAND_ hMACRON fDOT_ gABOVE gABOVE_ hAND_ iMACRON gBELOW fDOUBLE_ gGRAVE fGRAVE",
    "fHOOK_ gABOVE fINVERTED_ gBREVE fMACRON fOGONEK fRING_ gABOVE gABOVE_ hAND_ iACUTE gBELOW",
    "fSTROKE fTILDE dB dBETA dBROKEN_ eL dB_ eWITH_ fDOT_ gABOVE gBELOW fFLOURISH fHOOK fLINE_",
    "gBELOW fSTROKE fTOPBAR dC dCHI dCLOSED_ eINSULAR_ fG dCON dCUATRILLO dCUATRILLO_ eWITH_",
    "fCOMMA dC_ eWITH_ fACUTE fBAR fCARON fCEDILLA fCEDILLA_ gAND_ hACUTE fCIRCUMFLEX fDOT_",
    "gABOVE fHOOK fPALATAL_ gHOOK fSTROKE dD dDZ dDZ_ eWITH_ fCARON dD_ eWITH_ fCARON fCEDILLA",
    "fCIRCUMFLEX_ gBELOW fDOT_ gABOVE gBELOW fHOOK fLINE_ gBELOW fSHORT_ gSTROKE_ hOVERLAY",
    "fSMALL_ gLETTER_ hZ hZ_ iWITH_ jCARON fSTROKE fTOPBAR dE dEGYPTOLOGICAL_ eAIN eALEF dENG",
    "dESH dET dETH dEZH dEZH_ eREVERSED eWITH_ fCARON dE_ eWITH_ fACUTE fBREVE fCARON fCEDILLA",
    "fCEDILLA_ gAND_ hBREVE fCIRCUMFLEX fCIRCUMFLEX_ gAND_ hACUTE hDOT_ iBELOW hGRAVE hHOOK_",
    "iABOVE hTILDE gBELOW fDIAERESIS fDOT_ gABOVE gBELOW fDOUBLE_ gGRAVE fGRAVE fHOOK_ gABOVE",
    "fINVERTED_ gBREVE fMACRON fMACRON_ gAND_ hACUTE hGRAVE fOGONEK fSTROKE fTILDE fTILDE_",
    "gBELOW dF dF_ eWITH_ fDOT_ gABOVE fHOOK fSTROKE dG dGAMMA dGHA dGLOTTAL_ eA eI eSTOP eU dG_",
    "eWITH_ fACUTE fBREVE fCARON fCEDILLA fCIRCUMFLEX fDOT_ gABOVE fHOOK fMACRON fOBLIQUE_",
    "gSTROKE fSTROKE dH dHALF_ eH dHENG dHWAIR dH_ eWITH_ fBREVE_ gBELOW fCARON fCEDILLA",
    "fCIRCUMFLEX fDESCENDER fDIAERESIS fDOT_ gABOVE gBELOW fHOOK fSTROKE dI dINSULAR_ eD eF eG",
    "eR eS eT dIOTA dIS dI_ eWITH_ fACUTE fBREVE fCARON fCIRCUMFLEX fDIAERESIS fDIAERESIS_ gAND_",
    "hACUTE fDOT_ gABOVE gBELOW fDOUBLE_ gGRAVE fGRAVE fHOOK_ gABOVE fINVERTED_ gBREVE fMACRON",
    "fOGONEK fSTROKE fTILDE fTILDE_ gBELOW dJ dJ_ eWITH_ fCIRCUMFLEX fCROSSED- gTAIL fSTROKE dK",
    "dK_ eWITH_ fACUTE fCARON fCEDILLA fDESCENDER fDIAGONAL_ gSTROKE fDOT_ gBELOW fHOOK fLINE_",
    "gBELOW fOBLIQUE_ gSTROKE fSTROKE fSTROKE_ gAND_ hDIAGONAL_ iSTROKE dL dLJ dL_ eWITH_ fACUTE",
    "fBAR fBELT fCARON fCEDILLA fCIRCUMFLEX_ gBELOW fDOT_ gBELOW gBELOW_ hAND_ iMACRON fDOUBLE_",
    "gBAR fHIGH_ gSTROKE fLINE_ gBELOW fMIDDLE_ gDOT gTILDE fSMALL_ gLETTER_ hJ fSTROKE dM",
    "dMIDDLE- eWELSH_ fLL fV dMIDDLE_ eSCOTS_ fS dM_ eWITH_ fACUTE fDOT_ gABOVE gBELOW fHOOK dN",
    "dNJ dN_ eWITH_ fACUTE fCARON fCEDILLA fCIRCUMFLEX_ gBELOW fDESCENDER fDOT_ gABOVE gBELOW",
    "fGRAVE fLEFT_ gHOOK fLINE_ gBELOW fLONG_ gRIGHT_ hLEG fOBLIQUE_ gSTROKE fSMALL_ gLETTER_ hJ",
    "fTILDE dO dOI dOLD_ ePOLISH_ fO dOMEGA dOO dOPEN_ eE eO dOU dO_ eWITH_ fACUTE fBREVE fCARON",
    "fCIRCUMFLEX fCIRCUMFLEX_ gAND_ hACUTE hDOT_ iBELOW hGRAVE hHOOK_ iABOVE hTILDE fDIAERESIS",
    "fDIAERESIS_ gAND_ hMACRON fDOT_ gABOVE gABOVE_ hAND_ iMACRON gBELOW fDOUBLE_ gACUTE gGRAVE",
    "fGRAVE fHOOK_ gABOVE fHORN fHORN_ gAND_ hACUTE hDOT_ iBELOW hGRAVE hHOOK_ iABOVE hTILDE",
    "fINVERTED_ gBREVE fLONG_ gSTROKE_ hOVERLAY fLOOP fMACRON fMACRON_ gAND_ hACUTE hGRAVE",
    "fMIDDLE_ gTILDE fOGONEK fOGONEK_ gAND_ hMACRON fSTROKE fSTROKE_ gAND_ hACUTE fTILDE fTILDE_",
    "gAND_ hACUTE hDIAERESIS hMACRON dP dP_ eWITH_ fACUTE fDOT_ gABOVE fFLOURISH fHOOK",
    "fSQUIRREL_ gTAIL fSTROKE fSTROKE_ gTHROUGH_ hDESCENDER dQ dQ_ eWITH_ fDIAGONAL_ gSTROKE",
    "fSTROKE_ gTHROUGH_ hDESCENDER dR dREVERSED_ eC_ fWITH_ gDOT eE eHALF_ fH eOPEN_ fE dRUM_",
    "eROTUNDA dR_ eROTUNDA eWITH_ fACUTE fCARON fCEDILLA fDOT_ gABOVE gBELOW gBELOW_ hAND_",
    "iMACRON fDOUBLE_ gGRAVE fINVERTED_ gBREVE fLINE_ gBELOW fOBLIQUE_ gSTROKE fSTROKE fTAIL dS",
    "dSALTILLO dSCHWA dSCRIPT_ eG dSHARP_ eS dSIGMOID_ eS dSMALL_ eCAPITAL_ fI eQ_ fWITH_ gHOOK_",
    "hTAIL dS_ eWITH_ fACUTE fACUTE_ gAND_ hDOT_ iABOVE fCARON fCARON_ gAND_ hDOT_ iABOVE",
    "fCEDILLA fCIRCUMFLEX fCOMMA_ gBELOW fDOT_ gABOVE gBELOW gBELOW_ hAND_ iDOT_ jABOVE fHOOK",
    "fOBLIQUE_ gSTROKE fSHORT_ gSTROKE_ hOVERLAY fSWASH_ gTAIL dT dTHORN dTHORN_ eWITH_ fSTROKE",
    "fSTROKE_ gTHROUGH_ hDESCENDER dTONE_ eFIVE eSIX eTWO dTRESILLO dTURNED_ eA eALPHA eH",
    "eINSULAR_ fG eK eL eM eT eV dTZ dT_ eWITH_ fCARON fCEDILLA fCIRCUMFLEX_ gBELOW fCOMMA_",
    "gBELOW fDIAGONAL_ gSTROKE fDOT_ gABOVE gBELOW fHOOK fLINE_ gBELOW fRETROFLEX_ gHOOK fSTROKE",
    "dU dUPSILON dU_ eBAR eWITH_ fACUTE fBREVE fCARON fCIRCUMFLEX fCIRCUMFLEX_ gBELOW fDIAERESIS",
    "fDIAERESIS_ gAND_ hACUTE hCARON hGRAVE hMACRON gBELOW fDOT_ gBELOW fDOUBLE_ gACUTE gGRAVE",
    "fGRAVE fHOOK_ gABOVE fHORN fHORN_ gAND_ hACUTE hDOT_ iBELOW hGRAVE hHOOK_ iABOVE hTILDE",
    "fINVERTED_ gBREVE fMACRON fMACRON_ gAND_ hDIAERESIS fOGONEK fRING_ gABOVE fSTROKE fTILDE",
    "fTILDE_ gAND_ hACUTE gBELOW dV dVEND dVISIGOTHIC_ eZ dVOLAPUK_ eAE eOE eUE dVY dV_ eWITH_",
    "fDIAGONAL_ gSTROKE fDOT_ gBELOW fHOOK fTILDE dW dWYNN dW_ eWITH_ fACUTE fCIRCUMFLEX",
    "fDIAERESIS fDOT_ gABOVE gBELOW fGRAVE fHOOK dX dX_ eWITH_ fDIAERESIS fDOT_ gABOVE dY dYOGH",
    "dY_ eWITH_ fACUTE fCIRCUMFLEX fDIAERESIS fDOT_ gABOVE gBELOW fGRAVE fHOOK fHOOK_ gABOVE",
    "fLOOP fMACRON fSTROKE fTILDE dZ dZ_ eWITH_ fACUTE fCARON fCIRCUMFLEX fDESCENDER fDOT_",
    "gABOVE gBELOW fHOOK fLINE_ gBELOW fPALATAL_ gHOOK fSTROKE fSWASH_ gTAIL cLIGATURE_ dIJ dOE",
    "bCROSS bEPIGRAPHIC_ cLETTER_ dARCHAIC_ eM dINVERTED_ eM dI_ eLONGA dREVERSED_ eF eP",
    "dSIDEWAYS_ eI bLETTER_ cAIN cALVEOLAR_ dCLICK cBIDENTAL_ dPERCUSSIVE cBILABIAL_ dCLICK",
    "dPERCUSSIVE cDENTAL_ dCLICK cGLOTTAL_ dSTOP dSTOP_ eWITH_ fSTROKE cINVERTED_ dGLOTTAL_",
    "eSTOP eSTOP_ fWITH_ gCURL gSTROKE cLATERAL_ dCLICK cPHARYNGEAL_ dVOICED_ eFRICATIVE",
    "cRETROFLEX_ dCLICK dCLICK_ eWITH_ fRETROFLEX_ gHOOK cREVERSED_ dESH_ eLOOP dGLOTTAL_ eSTOP_",
    "fWITH_ gSTROKE cSINOLOGICAL_ dDOT cSMALL_ dCAPITAL_ eA eAE eB eBARRED_ fB eC eD eE eETH",
    "eEZH eF eG eG_ fWITH_ gHOOK eH eI eINVERTED_ fR eJ eK eL eL_ fWITH_ gBELT gSTROKE eM eN eO",
    "eOE eOPEN_ fO eOU eP eQ eR eREVERSED_ fN fR eRUM eR_ fWITH_ gRIGHT_ hLEG eS eT eTURNED_ fE",
    "fG fK fM fR eU eV eW eY eZ cSTRETCHED_ dC dC_ eWITH_ fCURL cTWO_ dWITH_ eSTROKE cVOICED_",
    "dLARYNGEAL_ eSPIRANT cWYNN cYR bSMALL_ cCAPITAL_ dLETTER_ eI_ fWITH_ gSTROKE eU_ fWITH_",
    "gSTROKE cLETTER_ dA dAA dAE dAE_ eWITH_ fACUTE fMACRON dALPHA dALPHA_ eWITH_ fRETROFLEX_",
    "gHOOK dANGLICANA_ eW dAO dAU dAV dAV_ eWITH_ fHORIZONTAL_ gBAR dAY dA_ eREVERSED- fSCHWA",
    "eWITH_ fACUTE fBREVE fBREVE_ gAND_ hACUTE hDOT_ iBELOW hGRAVE hHOOK_ iABOVE hTILDE fCARON",
    "fCIRCUMFLEX fCIRCUMFLEX_ gAND_ hACUTE hDOT_ iBELOW hGRAVE hHOOK_ iABOVE hTILDE fDIAERESIS",
    "fDIAERESIS_ gAND_ hMACRON fDOT_ gABOVE gABOVE_ hAND_ iMACRON gBELOW fDOUBLE_ gGRAVE fGRAVE",
    "fHOOK_ gABOVE fINVERTED_ gBREVE fMACRON fOGONEK fRETROFLEX_ gHOOK fRIGHT_ gHALF_ hRING",
    "fRING_ gABOVE gABOVE_ hAND_ iACUTE gBELOW fSTROKE fTILDE dB dBARRED_ eALPHA eE eO",
    "dBASELINE_ eESH dBETA dBLACKLETTER_ eE eO eO_ fWITH_ gSTROKE dBOTTOM_ eHALF_ fO dBROKEN_ eL",
    "dB_ eWITH_ fDOT_ gABOVE gBELOW fFLOURISH fHOOK fLINE_ gBELOW fMIDDLE_ gTILDE fPALATAL_",
    "gHOOK fSTROKE fTOPBAR dC dCHI dCHI_ eWITH_ fLOW_ gLEFT_ hSERIF gRIGHT_ hRING dCLOSED_",
    "eINSULAR_ fG eOMEGA eOPEN_ fE eREVERSED_ fOPEN_ gE dCON dCUATRILLO dCUATRILLO_ eWITH_",
    "fCOMMA dC_ eWITH_ fACUTE fBAR fCARON fCEDILLA fCEDILLA_ gAND_ hACUTE fCIRCUMFLEX fCURL",
    "fDOT_ gABOVE fHOOK fPALATAL_ gHOOK fRETROFLEX_ gHOOK fSTROKE dD dDB_ eDIGRAPH dDELTA dDEZH_",
    "eDIGRAPH eDIGRAPH_ fWITH_ gPALATAL_ hHOOK gRETROFLEX_ hHOOK dDOTLESS_ eI eJ eJ_ fWITH_",
    "gSTROKE gSTROKE_ hAND_ iHOOK dDOUBLE_ eR eR_ fWITH_ gCROSSED- hTAIL eTHORN eWYNN dDUM dDZ",
    "dDZ_ eDIGRAPH eDIGRAPH_ fWITH_ gCURL gRETROFLEX_ hHOOK eWITH_ fCARON dD_ eWITH_ fCARON",
    "fCEDILLA fCIRCUMFLEX_ gBELOW fCURL fDOT_ gABOVE gBELOW fHOOK fHOOK_ gAND_ hTAIL fLINE_",
    "gBELOW fMIDDLE_ gTILDE fPALATAL_ gHOOK fSHORT_ gSTROKE_ hOVERLAY fSTROKE fTAIL fTOPBAR dE",
    "dEGYPTOLOGICAL_ eAIN eALEF dENG dENG_ eWITH_ fCROSSED- gTAIL fPALATAL_ gHOOK dESH dESH_",
    "eWITH_ fCURL fDOUBLE_ gBAR gBAR_ hAND_ iCURL fPALATAL_ gHOOK fRETROFLEX_ gHOOK dET dETH",
    "dEZH dEZH_ eREVERSED eWITH_ fCARON fCURL fPALATAL_ gHOOK fRETROFLEX_ gHOOK fTAIL dE_ eWITH_",
    "fACUTE fBREVE fCARON fCEDILLA fCEDILLA_ gAND_ hBREVE fCIRCUMFLEX fCIRCUMFLEX_ gAND_ hACUTE",
    "hDOT_ iBELOW hGRAVE hHOOK_ iABOVE hTILDE gBELOW fDIAERESIS fDOT_ gABOVE gBELOW fDOUBLE_",
    "gGRAVE fFLOURISH fGRAVE fHOOK_ gABOVE fINVERTED_ gBREVE fMACRON fMACRON_ gAND_ hACUTE",
    "hGRAVE fNOTCH fOGONEK fRETROFLEX_ gHOOK fSTROKE fTILDE fTILDE_ gBELOW dF dFENG_ eDIGRAPH",
    "eDIGRAPH_ fWITH_ gTRILL dF_ eWITH_ fDOT_ gABOVE fHOOK fMIDDLE_ gTILDE fPALATAL_ gHOOK",
    "fSTROKE dG dGAMMA dGHA dGLOTTAL_ eA eI eSTOP eU dG_ eWITH_ fACUTE fBREVE fCARON fCEDILLA",
    "fCIRCUMFLEX fDOT_ gABOVE fHOOK fMACRON fOBLIQUE_ gSTROKE fPALATAL_ gHOOK fSTROKE dH dHALF_",
    "eH dHENG dHENG_ eWITH_ fHOOK dHV dH_ eWITH_ fBREVE_ gBELOW fCARON fCEDILLA fCIRCUMFLEX",
    "fDESCENDER fDIAERESIS fDOT_ gABOVE gBELOW fHOOK fLINE_ gBELOW fPALATAL_ gHOOK fSTROKE dI",
    "dINSULAR_ eD eF eG eR eS eT dINVERTED_ eALPHA eOE dIOTA dIOTA_ eWITH_ fSTROKE dIOTIFIED_ eE",
    "dIS dI_ eWITH_ fACUTE fBREVE fCARON fCIRCUMFLEX fDIAERESIS fDIAERESIS_ gAND_ hACUTE fDOT_",
    "gBELOW fDOUBLE_ gGRAVE fGRAVE fHOOK_ gABOVE fINVERTED_ gBREVE fMACRON fOGONEK fRETROFLEX_",
    "gHOOK fSTROKE fSTROKE_ gAND_ hRETROFLEX_ iHOOK fTILDE fTILDE_ gBELOW dJ dJ_ eWITH_ fCARON",
    "fCIRCUMFLEX fCROSSED- gTAIL fSTROKE dK dKRA dK_ eWITH_ fACUTE fCARON fCEDILLA fDESCENDER",
    "fDIAGONAL_ gSTROKE fDOT_ gBELOW fHOOK fLINE_ gBELOW fOBLIQUE_ gSTROKE fPALATAL_ gHOOK",
    "fSTROKE fSTROKE_ gAND_ hDIAGONAL_ iSTROKE dL dLAMBDA_ eWITH_ fSTROKE dLENIS_ eF dLEZH",
    "dLEZH_ eWITH_ fRETROFLEX_ gHOOK dLJ dLONG_ eS eS_ fWITH_ gDIAGONAL_ hSTROKE gDOT_ hABOVE",
    "gHIGH_ hSTROKE dLS_ eDIGRAPH dLUM dLZ_ eDIGRAPH dL_ eWITH_ fACUTE fBAR fBELT fBELT_ gAND_",
    "hPALATAL_ iHOOK fCARON fCEDILLA fCIRCUMFLEX_ gBELOW fCURL fDOT_ gBELOW gBELOW_ hAND_",
    "iMACRON fDOUBLE_ gBAR gMIDDLE_ hTILDE fFISHHOOK fHIGH_ gSTROKE fINVERTED_ gLAZY_ hS fLINE_",
    "gBELOW fMIDDLE_ gDOT gRING gTILDE fPALATAL_ gHOOK fRETROFLEX_ gHOOK gHOOK_ hAND_ iBELT",
    "fSTROKE dM dMIDDLE- eWELSH_ fLL fV dMIDDLE_ eSCOTS_ fS dMUM dM_ eWITH_ fACUTE fCROSSED-",
    "gTAIL fDOT_ gABOVE gBELOW fHOOK fMIDDLE_ gTILDE fPALATAL_ gHOOK dN dNJ dNUM dN_ ePRECEDED_",
    "fBY_ gAPOSTROPHE eWITH_ fACUTE fCARON fCEDILLA fCIRCUMFLEX_ gBELOW fCROSSED- gTAIL fCURL",
    "fDESCENDER fDOT_ gABOVE gBELOW fGRAVE fLEFT_ gHOOK fLINE_ gBELOW fLONG_ gRIGHT_ hLEG",
    "fMIDDLE_ gTILDE fOBLIQUE_ gSTROKE fPALATAL_ gHOOK fRETROFLEX_ gHOOK fTILDE dO dOI dOLD_",
    "ePOLISH_ fO dOMEGA dOO dOPEN_ eE eE_ fWITH_ gRETROFLEX_ hHOOK eO eOE eO_ fWITH_ gRETROFLEX_",
    "hHOOK gSTROKE dOU dO_ eWITH_ fACUTE fBREVE fCARON fCIRCUMFLEX fCIRCUMFLEX_ gAND_ hACUTE",
    "hDOT_ iBELOW hGRAVE hHOOK_ iABOVE hTILDE fDIAERESIS fDIAERESIS_ gAND_ hMACRON fDOT_ gABOVE",
    "gABOVE_ hAND_ iMACRON gBELOW fDOUBLE_ gACUTE gGRAVE fGRAVE fHOOK_ gABOVE fHORN fHORN_ gAND_",
    "hACUTE hDOT_ iBELOW hGRAVE hHOOK_ iABOVE hTILDE fINVERTED_ gBREVE fLONG_ gSTROKE_ hOVERLAY",
    "fLOOP fLOW_ gRING_ hINSIDE fMACRON fMACRON_ gAND_ hACUTE hGRAVE fOGONEK fOGONEK_ gAND_",
    "hMACRON fRETROFLEX_ gHOOK fSTROKE fSTROKE_ gAND_ hACUTE fTILDE fTILDE_ gAND_ hACUTE",
    "hDIAERESIS hMACRON dP dPHI dP_ eWITH_ fACUTE fDOT_ gABOVE fFLOURISH fHOOK fMIDDLE_ gTILDE",
    "fPALATAL_ gHOOK fSQUIRREL_ gTAIL fSTROKE fSTROKE_ gTHROUGH_ hDESCENDER dQ dQP_ eDIGRAPH dQ_",
    "eWITH_ fDIAGONAL_ gSTROKE fHOOK fHOOK_ gTAIL fSTROKE_ gTHROUGH_ hDESCENDER dR dRAMS_ eHORN",
    "dREVERSED_ eC eC_ fWITH_ gDOT eE eENG eHALF_ fH eK eOPEN_ fE fE_ gWITH_ hHOOK hRETROFLEX_",
    "iHOOK eR_ fWITH_ gFISHHOOK eSCRIPT_ fG dRUM dRUM_ eROTUNDA dR_ eROTUNDA eWITHOUT_ fHANDLE",
    "eWITH_ fACUTE fCARON fCEDILLA fCROSSED- gTAIL fDOT_ gABOVE gBELOW gBELOW_ hAND_ iMACRON",
    "fDOUBLE_ gGRAVE fFISHHOOK fFISHHOOK_ gAND_ hMIDDLE_ iTILDE hPALATAL_ iHOOK fINVERTED_",
    "gBREVE fLINE_ gBELOW fLONG_ gLEG fMIDDLE_ gTILDE fOBLIQUE_ gSTROKE fPALATAL_ gHOOK fSTROKE",
    "fTAIL dS dSAKHA_ eYAT dSALTILLO dSCHWA dSCHWA_ eWITH_ fHOOK fRETROFLEX_ gHOOK dSCRIPT_ eG",
    "eG_ fWITH_ gCROSSED- hTAIL eR eR_ fWITH_ gRING dSHARP_ eS dSIDEWAYS_ eDIAERESIZED_ fU eO",
    "eOPEN_ fO eO_ fWITH_ gSTROKE eTURNED_ fM eU dSIGMOID_ eS dSQUAT_ eREVERSED_ fESH dSTIRRUP_",
    "eR dS_ eWITH_ fACUTE fACUTE_ gAND_ hDOT_ iABOVE fCARON fCARON_ gAND_ hDOT_ iABOVE fCEDILLA",
    "fCIRCUMFLEX fCOMMA_ gBELOW fCURL fDOT_ gABOVE gBELOW gBELOW_ hAND_ iDOT_ jABOVE fHOOK",
    "fMIDDLE_ gTILDE fOBLIQUE_ gSTROKE fPALATAL_ gHOOK fSHORT_ gSTROKE_ hOVERLAY fSWASH_ gTAIL",
    "dT dTAILLESS_ ePHI dTC_ eDIGRAPH_ fWITH_ gCURL dTESH_ eDIGRAPH eDIGRAPH_ fWITH_ gPALATAL_",
    "hHOOK gRETROFLEX_ hHOOK dTHORN dTHORN_ eWITH_ fSTROKE fSTROKE_ gTHROUGH_ hDESCENDER dTH_",
    "eWITH_ fSTRIKETHROUGH dTONE_ eFIVE eSIX eTWO dTOP_ eHALF_ fO dTRESILLO dTS_ eDIGRAPH",
    "eDIGRAPH_ fWITH_ gRETROFLEX_ hHOOK dTUM dTURNED_ eA eAE eALPHA eDELTA eE eG eH eH_ fWITH_",
    "gFISHHOOK gFISHHOOK_ hAND_ iTAIL eI eINSULAR_ fG eK eL eM eM_ fWITH_ gLONG_ hLEG eOE eOE_",
    "fWITH_ gHORIZONTAL_ hSTROKE gSTROKE eOPEN_ fE eO_ fOPEN- gO gO_ hWITH_ iSTROKE eR eR_",
    "fWITH_ gHOOK gLONG_ hLEG hLEG_ iAND_ jRETROFLEX_ kHOOK gMIDDLE_ hTILDE gPALATAL_ hHOOK",
    "gTAIL eT eT_ fWITH_ gCURL eUI eV eW eY eY_ fWITH_ gBELT dTZ dT_ eWITH_ fCARON fCEDILLA",
    "fCIRCUMFLEX_ gBELOW fCOMMA_ gBELOW fCURL fDIAERESIS fDIAGONAL_ gSTROKE fDOT_ gABOVE gBELOW",
    "fHOOK fHOOK_ gAND_ hRETROFLEX_ iHOOK fLINE_ gBELOW fMIDDLE_ gTILDE fPALATAL_ gHOOK",
    "fRETROFLEX_ gHOOK fSTROKE dU dUE dUI dUM dUO dUPSILON dUPSILON_ eWITH_ fSTROKE dU_ eBAR",
    "eBAR_ fWITH_ gSHORT_ hRIGHT_ iLEG eWITH_ fACUTE fBREVE fCARON fCIRCUMFLEX fCIRCUMFLEX_",
    "gBELOW fDIAERESIS fDIAERESIS_ gAND_ hACUTE hCARON hGRAVE hMACRON gBELOW fDOT_ gBELOW",
    "fDOUBLE_ gACUTE gGRAVE fGRAVE fHOOK_ gABOVE fHORN fHORN_ gAND_ hACUTE hDOT_ iBELOW hGRAVE",
    "hHOOK_ iABOVE hTILDE fINVERTED_ gBREVE fLEFT_ gHOOK fMACRON fMACRON_ gAND_ hDIAERESIS",
    "fOGONEK fRETROFLEX_ gHOOK fRING_ gABOVE fSHORT_ gRIGHT_ hLEG fSTROKE fTILDE fTILDE_ gAND_",
    "hACUTE gBELOW dV dVEND dVISIGOTHIC_ eZ dVOLAPUK_ eAE eOE eUE dVY dV_ eWITH_ fCURL",
    "fDIAGONAL_ gSTROKE fDOT_ gBELOW fHOOK fPALATAL_ gHOOK fRIGHT_ gHOOK fTILDE dW dW_ eWITH_",
    "fACUTE fCIRCUMFLEX fDIAERESIS fDOT_ gABOVE gBELOW fGRAVE fHOOK fRING_ gABOVE dX dX_ eWITH_",
    "fDIAERESIS fDOT_ gABOVE fLONG_ gLEFT_ hLEG hLEG_ iAND_ jLOW_ kRIGHT_ lRING iWITH_ jSERIF",
    "fLOW_ gRIGHT_ hRING fPALATAL_ gHOOK dY dYOGH dY_ eWITH_ fACUTE fCIRCUMFLEX fDIAERESIS fDOT_",
    "gABOVE gBELOW fGRAVE fHOOK fHOOK_ gABOVE fLOOP fMACRON fRING_ gABOVE fSHORT_ gRIGHT_ hLEG",
    "fSTROKE fTILDE dZ dZ_ eWITH_ fACUTE fCARON fCIRCUMFLEX fCURL fDESCENDER fDOT_ gABOVE gBELOW",
    "fHOOK fLINE_ gBELOW fMIDDLE_ gTILDE fPALATAL_ gHOOK fRETROFLEX_ gHOOK fSTROKE fSWASH_ gTAIL",
    "cLIGATURE_ dFF dFFI dFFL dFI dFL dIJ dLONG_ eS_ fT dOE dST bSUBSCRIPT_ cSMALL_ dLETTER_ eA",
    "eE eH eI eJ eK eL eM eN eO eP eR eS eSCHWA eT eU eV eX aLEAFY_ bGREEN aLEAF_ bFLUTTERING_",
    "cIN_ dWIND aLEDGER aLEFT- bFACING_ cARMENIAN_ dETERNITY_ eSIGN cFIST cSVASTI_ dSIGN dSIGN_",
    "eWITH_ fDOTS bHANDED_ cINTERLACED_ dPENTAGRAM bPOINTING_ cANGLE_ dBRACKET cCURVED_ dANGLE_",
    "eBRACKET cDOUBLE_ dANGLE_ eQUOTATION_ fMARK cMAGNIFYING_ dGLASS bSHADED_ cWHITE_",
    "dRIGHTWARDS_ eARROW bSIDE_ cARC_ dANTICLOCKWISE_ eARROW bTO- cRIGHT_ dEMBEDDING dISOLATE",
    "dMARK dOVERRIDE aLEFTWARDS_ bARROW bARROW- cTAIL bARROW_ cABOVE_ dALMOST_ eEQUAL_ fTO",
    "dREVERSE_ eALMOST_ fEQUAL_ gTO eTILDE_ fOPERATOR dSHORT_ eRIGHTWARDS_ fARROW dTILDE_",
    "eOPERATOR cAND_ dUPPER_ eAND_ fLOWER_ gONE_ hEIGHTH_ iBLOCK cFROM_ dBAR dBAR_ eTO_ fBLACK_",
    "gDIAMOND cOVER_ dRIGHTWARDS_ eARROW cTHROUGH_ dLESS- eTHAN dSUBSET dX cTO_ dBAR dBAR_",
    "eOVER_ fRIGHTWARDS_ gARROW_ hTO_ iBAR dBLACK_ eDIAMOND cWITH_ dDOTTED_ eSTEM dDOUBLE_",
    "eVERTICAL_ fSTROKE dEQUILATERAL_ eARROWHEAD dHOOK dLARGE_ eTRIANGLE_ fARROWHEAD dLOOP",
    "dMEDIUM_ eTRIANGLE_ fARROWHEAD dNOTCHED_ eTAIL dPLUS_ eBELOW dSMALL_ eEQUILATERAL_",
    "fARROWHEAD eTRIANGLE_ fARROWHEAD dSTROKE dTAIL dTAIL_ eWITH_ fDOUBLE_ gVERTICAL_ hSTROKE",
    "fVERTICAL_ gSTROKE dTIP_ eDOWNWARDS eUPWARDS dVERTICAL_ eSTROKE bBACK- cTILTED_ dSHADOWED_",
    "eWHITE_ fARROW bBLACK_ cARROW cCIRCLED_ dWHITE_ eARROW bBOTTOM- cSHADED_ dWHITE_ eARROW",
    "bCOMPRESSED_ cARROW bDASHED_ cARROW bDOUBLE_ cARROW cARROW- dTAIL cARROW_ dFROM_ eBAR",
    "dWITH_ eSTROKE eVERTICAL_ fSTROKE cDASH_ dARROW bFINGER- cPOST_ dARROW bFRONT- cTILTED_",
    "dSHADOWED_ eWHITE_ fARROW bHAND bHARPOON_ cOVER_ dRIGHTWARDS_ eHARPOON cWITH_ dBARB_",
    "eDOWNWARDS eDOWN_ fABOVE_ gRIGHTWARDS_ hHARPOON_ iWITH_ jBARB_ kDOWN fBELOW_ gLONG_ hDASH",
    "fFROM_ gBAR fTO_ gBAR eUPWARDS eUP_ fABOVE_ gLEFTWARDS_ hHARPOON_ iWITH_ jBARB_ kDOWN",
    "gLONG_ hDASH gRIGHTWARDS_ hHARPOON_ iWITH_ jBARB_ kUP fFROM_ gBAR fTO_ gBAR bHEAVY_ cARROW",
    "cCOMPRESSED_ dARROW bLEFT- cSHADED_ dWHITE_ eARROW bOPEN- cHEADED_ dARROW bPAIRED_ cARROWS",
    "bQUADRUPLE_ cARROW bRIGHT- cSHADED_ dWHITE_ eARROW bROCKET bSANS- cSERIF_ dARROW bSQUARED_",
    "cARROW bSQUIGGLE_ cARROW bTOP_ cSHADED_ dWHITE_ eARROW bTRIANGLE- cHEADED_ dARROW dARROW_",
    "eOVER_ fRIGHTWARDS_ gTRIANGLE- hHEADED_ iARROW eTO_ fBAR eWITH_ fBOLD_ gSHAFT fDOUBLE_",
    "gHORIZONTAL_ hSTROKE gVERTICAL_ hSTROKE fHEAVY_ gSHAFT fLONG_ gTIP_ hDOWNWARDS hUPWARDS",
    "fMEDIUM_ gSHAFT fNARROW_ gSHAFT fVERY_ gHEAVY_ hSHAFT dDASHED_ eARROW dPAIRED_ eARROWS",
    "bTRIANGLE_ cARROWHEAD bTRIPLE_ cARROW cDASH_ dARROW bTWO- cHEADED_ dARROW_ eFROM_ fBAR",
    "eWITH_ fDOUBLE_ gVERTICAL_ hSTROKE fTAIL fTAIL_ gWITH_ hDOUBLE_ iVERTICAL_ jSTROKE",
    "hVERTICAL_ iSTROKE fTRIANGLE_ gARROWHEADS fVERTICAL_ gSTROKE dTRIPLE_ eDASH_ fARROW bTWO_",
    "cHEADED_ dARROW bWAVE_ cARROW bWHITE_ cARROW cARROW_ dWITHIN_ eTRIANGLE_ fARROWHEAD aLEFT_",
    "bAND_ cLOWER_ dAND_ eRIGHT_ fTRIANGULAR_ gTHREE_ hQUARTERS_ iBLOCK dONE_ eEIGHTH_ fBLOCK",
    "cRIGHT_ dDOUBLE_ eTURNSTILE dTACK dTRIANGULAR_ eHALF_ fBLOCK cUPPER_ dAND_ eRIGHT_",
    "fTRIANGULAR_ gTHREE_ hQUARTERS_ iBLOCK dONE_ eEIGHTH_ fBLOCK bANGER_ cBUBBLE bANGLE_",
    "cBRACKET cBRACKET_ dWITH_ eDOT bARC_ cLESS- dTHAN_ eBRACKET bARROW_ cWITH_ dCIRCLED_ ePLUS",
    "dSMALL_ eCIRCLE bBARB_ cDOWN_ dRIGHT_ eBARB_ fDOWN_ gHARPOON fUP_ gHARPOON cUP_ dRIGHT_",
    "eBARB_ fDOWN_ gHARPOON fUP_ gHARPOON bBLACK_ cLENTICULAR_ dBRACKET cTORTOISE_ dSHELL_",
    "eBRACKET bCEILING bCLOSED_ cENTRY bCORNER_ cBRACKET bCURLY_ cBRACKET cBRACKET_ dLOWER_",
    "eHOOK dMIDDLE_ ePIECE dUPPER_ eHOOK bDOTTED_ cSUBSTITUTION_ dBRACKET bDOUBLE_ cANGLE_",
    "dBRACKET cPARENTHESIS cQUOTATION_ dMARK cWIGGLY_ dFENCE bFISH_ cTAIL bFIVE_ cEIGHTHS_",
    "dBLOCK bFLOOR bHALF_ cBLACK_ dCIRCLE dSTAR cBLOCK cCIRCLE cCIRCLE_ dWITH_ eDOT eFOUR_ fDOTS",
    "eTHREE_ fDOTS eTWO_ fDOTS cFOLDER cINVERSE_ dMEDIUM_ eSHADE_ fAND_ gRIGHT_ hHALF_ iBLOCK",
    "cMEDIUM_ dSHADE cRUNNING_ dMAN bHAND_ cTELEPHONE_ dRECEIVER bLOW_ cPARAPHRASE_ dBRACKET",
    "bLUGGAGE bMULTIMAP bNORMAL_ cFACTOR_ dSEMIDIRECT_ ePRODUCT bONE_ cEIGHTH_ dBLOCK cQUARTER_",
    "dBLOCK bOUTER_ cJOIN bPARENTHESIS bPARENTHESIS_ cEXTENSION cLOWER_ dHOOK cUPPER_ dHOOK",
    "bRAISED_ cOMISSION_ dBRACKET bRIGHT_ cARROW cARROW_ dTHROUGH_ eSMALL_ fCIRCLE dWITH_",
    "eDOUBLE_ fVERTICAL_ gSTROKE eSTROKE eVERTICAL_ fSTROKE cBLACK_ dARROW cDOUBLE_ dARROW",
    "dARROW_ eWITH_ fSTROKE fVERTICAL_ gSTROKE cOPEN- dHEADED_ eARROW cSANS- dSERIF_ eARROW",
    "cTRIANGLE- dHEADED_ eARROW cWAVE_ dARROW cWHITE_ dARROW bS- cSHAPED_ dBAG_ eDELIMITER",
    "bSEMIDIRECT_ cPRODUCT bSEVEN_ cEIGHTHS_ dBLOCK bSIDEWAYS_ cU_ dBRACKET bSINGLE_ cQUOTATION_",
    "dMARK bSPEECH_ cBUBBLE bSQUARE_ cBRACKET cBRACKET_ dEXTENSION dLOWER_ eCORNER dUPPER_",
    "eCORNER dWITH_ eDOUBLE_ fSTROKE eQUILL eSTROKE eTICK_ fIN_ gBOTTOM_ hCORNER gTOP_ hCORNER",
    "eUNDERBAR bSUBSTITUTION_ cBRACKET bTACK bTHIRD_ cWHITE_ dRIGHT_ ePOINTING_ fINDEX bTHOUGHT_",
    "cBUBBLE bTHREE_ cEIGHTHS_ dBLOCK cQUARTERS_ dBLOCK bTORTOISE_ cSHELL_ dBRACKET",
    "bTRANSPOSITION_ cBRACKET bTRIANGLE_ cBESIDE_ dVERTICAL_ eBAR bTRIANGULAR_ cONE_ dQUARTER_",
    "eBLOCK bVERTICAL_ cBAR_ dWITH_ eQUILL cBOX_ dLINE bWHITE_ cCORNER_ dBRACKET cCURLY_",
    "dBRACKET cLENTICULAR_ dBRACKET cPARENTHESIS cSQUARE_ dBRACKET cTORTOISE_ dSHELL_ eBRACKET",
    "bWIGGLY_ cFENCE bWRITING_ cHAND aLEG aLEMON aLEO aLEOPARD aLEPCHA_ bCONSONANT_ cSIGN_ dK",
    "dKANG dL dM dN dNYIN- eDO dP dR dT bDIGIT_ cEIGHT cFIVE cFOUR cNINE cONE cSEVEN cSIX cTHREE",
    "cTWO cZERO bLETTER_ cA cBA cBLA cCA cCHA cDA cDDA cDZA cFA cFLA cGA cGLA cHA cHLA cJA cKA",
    "cKHA cKLA cLA cMA cMLA cNA cNGA cNYA cPA cPHA cPLA cRA cSA cSHA cTA cTHA cTSA cTSHA cTTA",
    "cTTHA cVA cWA cYA bPUNCTUATION_ cCER- dWA cNYET_ dTHYOOM_ eTA- fROL cTA- dROL cTSHOOK",
    "cTSHOOK_ dCER- eWA bSIGN_ cNUKTA cRAN bSUBJOINED_ cLETTER_ dRA dYA bVOWEL_ cSIGN_ dAA dE dI",
    "dO dOO dU dUU aLESS- bTHAN_ cABOVE_ dDOUBLE- eLINE_ fEQUAL_ gABOVE_ hGREATER- iTHAN",
    "dGREATER- eTHAN_ fABOVE_ gDOUBLE- hLINE_ iEQUAL dLEFTWARDS_ eARROW dSIMILAR_ eABOVE_",
    "fGREATER- gTHAN eOR_ fEQUAL dSLANTED_ eEQUAL_ fABOVE_ gGREATER- hTHAN_ iABOVE_ jSLANTED_",
    "kEQUAL cAND_ dNOT_ eAPPROXIMATE dSINGLE- eLINE_ fNOT_ gEQUAL_ hTO cBUT_ dNOT_ eEQUAL_ fTO",
    "eEQUIVALENT_ fTO cCLOSED_ dBY_ eCURVE eCURVE_ fABOVE_ gSLANTED_ hEQUAL cEQUAL_ dTO_ eOR_",
    "fGREATER- gTHAN cOR_ dAPPROXIMATE dEQUAL_ eTO dEQUIVALENT_ eTO dGREATER- eTHAN dSLANTED_",
    "eEQUAL_ fTO fTO_ gWITH_ hDOT_ iABOVE iABOVE_ jRIGHT iINSIDE cOVER_ dEQUAL_ eTO cSIGN cWITH_",
    "dCIRCLE_ eINSIDE dDOT dQUESTION_ eMARK_ fABOVE aLEVEL_ bSLIDER aLF aLIBRA aLIGATURE_ bOPEN_",
    "cET_ dORNAMENT aLIGHTNING aLIGHTNING_ bMOOD bMOOD_ cBUBBLE aLIGHT_ bCHECK_ cMARK bEIGHT_",
    "cSPOKED_ dASTERISK bFIVE_ cPOINTED_ dBLACK_ eSTAR cSPOKED_ dASTERISK bFOUR_ cPOINTED_",
    "dBLACK_ eCUSP eSTAR bGREEK_ cCROSS bLEFT_ cTORTOISE_ dSHELL_ eBRACKET_ fORNAMENT bRAIL",
    "bRIGHT_ cTORTOISE_ dSHELL_ eBRACKET_ fORNAMENT bSALTIRE bSHADE bSIX_ cSPOKED_ dASTERISK",
    "bTHREE_ cPOINTED_ dBLACK_ eSTAR bTWELVE_ cPOINTED_ dBLACK_ eSTAR bVERTICAL_ cBAR bWHITE_",
    "cSQUARE aLIMBU_ bDIGIT_ cEIGHT cFIVE cFOUR cNINE cONE cSEVEN cSIX cTHREE cTWO cZERO",
    "bEXCLAMATION_ cMARK bLETTER_ cBA cBHA cCA cCHA cDA cDHA cGA cGHA cGYAN cHA cJA cJHA cKA",
    "cKHA cLA cMA cNA cNGA cPA cPHA cRA cSA cSHA cSSA cTA cTHA cTRA cWA cYA cYAN bQUESTION_",
    "cMARK bSIGN_ cKEMPHRENG cLOO cMUKPHRENG cSA- dI bSMALL_ cLETTER_ dANUSVARA dKA dLA dMA dNA",
    "dNGA dPA dRA dTA bSUBJOINED_ cLETTER_ dRA dWA dYA bVOWEL- cCARRIER_ dLETTER bVOWEL_ cSIGN_",
    "dA dAI dAU dE dEE dI dO dOO dU aLIMITED_ bLIABILITY_ cSIGN aLINEAR_ bA_ cSIGN_ dA028B",
    "dA100- e102 dA120B dA131C dA301 dA302 dA303 dA304 dA305 dA306 dA307 dA308 dA309A dA309B",
    "dA309C dA310 dA311 dA312 dA313A dA313B dA313C dA314 dA315 dA316 dA317 dA318 dA319 dA320",
    "dA321 dA322 dA323 dA324 dA325 dA326 dA327 dA328 dA329 dA330 dA331 dA332 dA333 dA334 dA335",
    "dA336 dA337 dA338 dA339 dA340 dA341 dA342 dA343 dA344 dA345 dA346 dA347 dA348 dA349 dA350",
    "dA351 dA352 dA353 dA354 dA355 dA356 dA357 dA358 dA359 dA360 dA361 dA362 dA363 dA364 dA365",
    "dA366 dA367 dA368 dA369 dA370 dA371 dA400- eVAS dA401- eVAS dA402- eVAS dA403- eVAS dA404-",
    "eVAS dA405- eVAS dA406- eVAS dA407- eVAS dA408- eVAS dA409- eVAS dA410- eVAS dA411- eVAS",
    "dA412- eVAS dA413- eVAS dA414- eVAS dA415- eVAS dA416- eVAS dA417- eVAS dA418- eVAS dA501",
    "dA502 dA503 dA504 dA505 dA506 dA508 dA509 dA510 dA511 dA512 dA513 dA515 dA516 dA520 dA521",
    "dA523 dA524 dA525 dA526 dA527 dA528 dA529 dA530 dA531 dA532 dA534 dA535 dA536 dA537 dA538",
    "dA539 dA540 dA541 dA542 dA545 dA547 dA548 dA549 dA550 dA551 dA552 dA553 dA554 dA555 dA556",
    "dA557 dA559 dA563 dA564 dA565 dA566 dA568 dA569 dA570 dA571 dA572 dA573 dA574 dA575 dA576",
    "dA577 dA578 dA579 dA580 dA581 dA582 dA583 dA584 dA585 dA586 dA587 dA588 dA589 dA591 dA592",
    "dA594 dA595 dA596 dA598 dA600 dA601 dA602 dA603 dA604 dA606 dA608 dA609 dA610 dA611 dA612",
    "dA613 dA614 dA615 dA616 dA617 dA618 dA619 dA620 dA621 dA622 dA623 dA624 dA626 dA627 dA628",
    "dA629 dA634 dA637 dA638 dA640 dA642 dA643 dA644 dA645 dA646 dA648 dA649 dA651 dA652 dA653",
    "dA654 dA655 dA656 dA657 dA658 dA659 dA660 dA661 dA662 dA663 dA664 dA701_ eA dA702_ eB",
    "dA703_ eD dA704_ eE dA705_ eF dA706_ eH dA707_ eJ dA708_ eK dA709- e2_ fL2 e3_ fL3 e4_ fL4",
    "e6_ fL6 dA709_ eL dA710_ eW dA711_ eX dA712_ eY dA713_ eOMEGA dA714_ eABB dA715_ eBB dA717_",
    "eDD dA726_ eEYYY dA732_ eJE dA800 dA801 dA802 dA803 dA804 dA805 dA806 dA807 dAB001 dAB002",
    "dAB003 dAB004 dAB005 dAB006 dAB007 dAB008 dAB009 dAB010 dAB011 dAB013 dAB016 dAB017 dAB020",
    "dAB021 dAB021F dAB021M dAB022 dAB022F dAB022M dAB023 dAB023M dAB024 dAB026 dAB027 dAB028",
    "dAB029 dAB030 dAB031 dAB034 dAB037 dAB038 dAB039 dAB040 dAB041 dAB044 dAB045 dAB046 dAB047",
    "dAB048 dAB049 dAB050 dAB051 dAB053 dAB054 dAB055 dAB056 dAB057 dAB058 dAB059 dAB060 dAB061",
    "dAB065 dAB066 dAB067 dAB069 dAB070 dAB073 dAB074 dAB076 dAB077 dAB078 dAB079 dAB080 dAB081",
    "dAB082 dAB085 dAB086 dAB087 dAB118 dAB120 dAB122 dAB123 dAB131A dAB131B dAB164 dAB171",
    "dAB180 dAB188 dAB191 bB_ cIDEOGRAM_ dB100_ eMAN dB102_ eWOMAN dB104_ eDEER dB105F_ eMARE",
    "dB105M_ eSTALLION dB105_ eEQUID dB106F_ eEWE dB106M_ eRAM dB107F_ eSHE- fGOAT dB107M_ eHE-",
    "fGOAT dB108F_ eSOW dB108M_ eBOAR dB109F_ eCOW dB109M_ eBULL dB120_ eWHEAT dB121_ eBARLEY",
    "dB122_ eOLIVE dB123_ eSPICE dB125_ eCYPERUS dB130_ eOIL dB131_ eWINE dB132 dB140_ eBRONZE",
    "dB141_ eGOLD dB142 dB145_ eWOOL dB146 dB150 dB151_ eHORN dB152 dB153 dB154 dB157 dB158",
    "dB159_ eCLOTH dB160 dB161 dB162_ eGARMENT dB163_ eARMOUR dB164 dB165 dB166 dB167 dB168",
    "dB169 dB170 dB171 dB172 dB173_ eMONTH dB174 dB176_ eTREE dB177 dB178 dB179 dB180 dB181",
    "dB182 dB183 dB184 dB185 dB189 dB190 dB191_ eHELMET dB220_ eFOOTSTOOL dB225_ eBATHTUB dB230_",
    "eSPEAR dB231_ eARROW dB232 dB233_ eSWORD dB234 dB236 dB240_ eWHEELED_ fCHARIOT dB241_",
    "eCHARIOT dB242_ eCHARIOT_ fFRAME dB243_ eWHEEL dB245 dB246 dB248 dB249 dB251 dB252 dB253",
    "dB254_ eDART dB255 dB256 dB257 dB258 dB259 dVESSEL_ eB155 eB200 eB201 eB202 eB203 eB204",
    "eB205 eB206 eB207 eB208 eB209 eB210 eB211 eB212 eB213 eB214 eB215 eB216 eB217 eB218 eB219",
    "eB221 eB222 eB226 eB227 eB228 eB229 eB250 eB305 cMONOGRAM_ dB127_ eKAPO dB128_ eKANAKO",
    "dB133_ eAREPA dB135_ eMERI dB156_ eTURO2 dB247_ eDIPTE cSYLLABLE_ dB001_ eDA dB002_ eRO",
    "dB003_ ePA dB004_ eTE dB005_ eTO dB006_ eNA dB007_ eDI dB008_ eA dB009_ eSE dB010_ eU",
    "dB011_ ePO dB012_ eSO dB013_ eME dB014_ eDO dB015_ eMO dB016_ eQA dB017_ eZA dB020_ eZO",
    "dB021_ eQI dB023_ eMU dB024_ eNE dB025_ eA2 dB026_ eRU dB027_ eRE dB028_ eI dB029_ ePU2",
    "dB030_ eNI dB031_ eSA dB032_ eQO dB033_ eRA3 dB036_ eJO dB037_ eTI dB038_ eE dB039_ ePI",
    "dB040_ eWI dB041_ eSI dB042_ eWO dB043_ eA3 dB044_ eKE dB045_ eDE dB046_ eJE dB048_ eNWA",
    "dB050_ ePU dB051_ eDU dB052_ eNO dB053_ eRI dB054_ eWA dB055_ eNU dB057_ eJA dB058_ eSU",
    "dB059_ eTA dB060_ eRA dB061_ eO dB062_ ePTE dB065_ eJU dB066_ eTA2 dB067_ eKI dB068_ eRO2",
    "dB069_ eTU dB070_ eKO dB071_ eDWE dB072_ ePE dB073_ eMI dB074_ eZE dB075_ eWE dB076_ eRA2",
    "dB077_ eKA dB078_ eQE dB080_ eMA dB081_ eKU dB085_ eAU dB087_ eTWE dB090_ eDWO dB091_ eTWO",
    "cSYMBOL_ dB018 dB019 dB022 dB034 dB047 dB049 dB056 dB063 dB064 dB079 dB082 dB083 dB086",
    "dB089 aLINE_ bFEED bINTEGRATION_ cNOT_ dINCLUDING_ eTHE_ fPOLE cWITH_ dRECTANGULAR_ ePATH_",
    "fAROUND_ gPOLE dSEMICIRCULAR_ ePATH_ fAROUND_ gPOLE bSEPARATOR bTABULATION bTABULATION_",
    "cSET aLINKED_ bPAPERCLIPS aLINK_ bSYMBOL aLION_ bFACE aLIPS aLIPSTICK aLIRA_ bSIGN aLISU_",
    "bLETTER_ cA cAE cBA cCA cCHA cDA cDZA cE cEU cFA cGA cGHA cHA cHHA cI cJA cKA cKHA cLA cMA",
    "cNA cNGA cO cOE cPA cPHA cSA cSHA cTA cTHA cTONE_ dMYA_ eBO eCYA eJEU eNA eTI dNA_ ePO cTSA",
    "cTSHA cU cUE cUH cWA cXA cYA cYHA cZA cZHA bPUNCTUATION_ cCOMMA cFULL_ dSTOP aLIVRE_",
    "bTOURNOIS_ cSIGN aLIZARD aLLAMA aLOBSTER aLOCK aLOCKING- bSHIFT_ cONE cZERO aLOCK_ bWITH_",
    "cINK_ dPEN aLOGICAL_ bAND bAND_ cWITH_ dDOT_ eABOVE dDOUBLE_ eOVERBAR eUNDERBAR",
    "dHORIZONTAL_ eDASH dMIDDLE_ eSTEM dUNDERBAR bOR bOR_ cOVERLAPPING_ dLOGICAL_ eAND cWITH_",
    "dDOT_ eABOVE dDOUBLE_ eOVERBAR eUNDERBAR dHORIZONTAL_ eDASH dMIDDLE_ eSTEM aLOLLIPOP aLONG_",
    "bDASH_ cFROM_ dLEFT_ eMEMBER_ fOF_ gDOUBLE_ hVERTICAL bDIVISION bDRUM bLEFTWARDS_ cARROW",
    "cARROW_ dFROM_ eBAR cDOUBLE_ dARROW dARROW_ eFROM_ fBAR cSQUIGGLE_ dARROW bLEFT_ cRIGHT_",
    "dARROW dDOUBLE_ eARROW cTACK bRIGHTWARDS_ cARROW cARROW_ dFROM_ eBAR cDOUBLE_ dARROW",
    "dARROW_ eFROM_ fBAR cSQUIGGLE_ dARROW bRIGHT_ cTACK aLOTION_ bBOTTLE aLOTUS aLOUDLY_",
    "bCRYING_ cFACE aLOVE_ bHOTEL bLETTER aLOWER_ bBLADE_ cSCISSORS bFIVE_ cEIGHTHS_ dBLOCK",
    "bHALF_ cBLOCK cCIRCLE cINVERSE_ dWHITE_ eCIRCLE cMEDIUM_ dSHADE bLEFT_ cBALLPOINT_ dPEN",
    "cBLOCK_ dDIAGONAL_ eLOWER_ fMIDDLE_ gLEFT_ hTO_ iLOWER_ jCENTRE jRIGHT eUPPER_ fCENTRE_",
    "gTO_ hLOWER_ iMIDDLE_ jRIGHT iRIGHT hUPPER_ iMIDDLE_ jRIGHT fLEFT_ gTO_ hLOWER_ iCENTRE",
    "iMIDDLE_ jRIGHT hUPPER_ iMIDDLE_ jRIGHT fMIDDLE_ gLEFT_ hTO_ iLOWER_ jCENTRE jMIDDLE_",
    "kRIGHT jRIGHT cCRAYON cFOUNTAIN_ dPEN cPAINTBRUSH cPENCIL cQUADRANT_ dCIRCULAR_ eARC",
    "cSEMICIRCULAR_ dANTICLOCKWISE_ eARROW cTRIANGLE cTRIANGULAR_ dMEDIUM_ eSHADE bONE_ cEIGHTH_",
    "dBLOCK cQUARTER_ dBLOCK bRIGHT_ cBLOCK_ dDIAGONAL_ eLOWER_ fCENTRE_ gTO_ hLOWER_ iMIDDLE_",
    "jRIGHT hUPPER_ iMIDDLE_ jRIGHT iRIGHT fLEFT_ gTO_ hLOWER_ iMIDDLE_ jRIGHT hUPPER_ iCENTRE",
    "iMIDDLE_ jRIGHT fMIDDLE_ gLEFT_ hTO_ iUPPER_ jCENTRE jMIDDLE_ kRIGHT jRIGHT eUPPER_",
    "fMIDDLE_ gLEFT_ hTO_ iUPPER_ jCENTRE jRIGHT cCORNER_ dWITH_ eDOT cDROP- dSHADOWED_ eWHITE_",
    "fSQUARE cPENCIL cQUADRANT_ dCIRCULAR_ eARC cSEMICIRCULAR_ dCLOCKWISE_ eARROW cSHADOWED_",
    "dWHITE_ eCIRCLE eSQUARE cTRIANGLE cTRIANGULAR_ dMEDIUM_ eSHADE bSEVEN_ cEIGHTHS_ dBLOCK",
    "bTHREE_ cEIGHTHS_ dBLOCK cQUARTERS_ dBLOCK bTRIANGULAR_ cONE_ dQUARTER_ eBLOCK aLOW_",
    "bASTERISK bBATTERY bBRIGHTNESS_ cSYMBOL bDOUBLE_ cPRIME_ dQUOTATION_ eMARK bKAVYKA bKAVYKA_",
    "cWITH_ dDOT bLINE aLOZENGE aLOZENGE_ bDIVIDED_ cBY_ dHORIZONTAL_ eRULE aLRE aLRI aLRM aLRO",
    "aLUGGAGE aLUNGS aLYCIAN_ bLETTER_ cA cAN cB cBH cD cE cEN cG cH cI cJ cK cKK cL cM cMM cN",
    "cNN cP cQ cR cS cT cTH cTT cU cW cX cZ aLYDIAN_ bLETTER_ cA cAN cB cC cD cE cEN cF cG cI cK",
    "cL cLY cM cN cNN cO cQ cR cS cSS cT cTT cU cV cY bTRIANGULAR_ cMARK aLYING_ bFACE aL_ bB_",
    "cBAR_ dSYMBOL"]

end GoMetrics.Text.CharName
