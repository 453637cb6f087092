/-!
Names of characters that begin with A, as a tree of their words (Unicode 14).
-/

namespace GoMetrics.Text.CharName

def namesA : List String :=
  ["aABACUS aACCORDION aACCOUNT_ bOF aACK aACKNOWLEDGE aACTIVATE_ bARABIC_ cFORM_ dSHAPING",
    "bSYMMETRIC_ cSWAPPING aACUTE_ bACCENT bANGLE aAC_ bCURRENT aADDRESSED_ bTO_ cTHE_ dSUBJECT",
    "aADHESIVE_ bBANDAGE aADI_ bSHAKTI aADLAM_ bALIF_ cLENGTHENER bCAPITAL_ cLETTER_ dALIF dBA",
    "dBHE dCHI dDAALI dDHA dE dFA dGA dGBE dHA dI dJIIM dKAF dKHA dKPO dLAAM dMIIM dNHA dNUN",
    "dNYA dO dPE dQAAF dRA dSHA dSINNYIIYHE dTU dU dVA dWAW dYA dYHE dZAL bCONSONANT_ cMODIFIER",
    "bDIGIT_ cEIGHT cFIVE cFOUR cNINE cONE cSEVEN cSIX cTHREE cTWO cZERO bGEMINATE_ cCONSONANT_",
    "dMODIFIER bGEMINATION_ cMARK bHAMZA bINITIAL_ cEXCLAMATION_ dMARK cQUESTION_ dMARK",
    "bNASALIZATION_ cMARK bNUKTA bSMALL_ cLETTER_ dALIF dBA dBHE dCHI dDAALI dDHA dE dFA dGA",
    "dGBE dHA dI dJIIM dKAF dKHA dKPO dLAAM dMIIM dNHA dNUN dNYA dO dPE dQAAF dRA dSHA",
    "dSINNYIIYHE dTU dU dVA dWAW dYA dYHE dZAL bVOWEL_ cLENGTHENER aADMETOS aADMISSION_ bTICKETS",
    "aADULT aAEGEAN_ bCHECK_ cMARK bDRY_ cMEASURE_ dFIRST_ eSUBUNIT bLIQUID_ cMEASURE_ dFIRST_",
    "eSUBUNIT bMEASURE_ cSECOND_ dSUBUNIT cTHIRD_ dSUBUNIT bNUMBER_ cEIGHT cEIGHTY cEIGHTY_",
    "dTHOUSAND cEIGHT_ dHUNDRED dTHOUSAND cFIFTY cFIFTY_ dTHOUSAND cFIVE cFIVE_ dHUNDRED",
    "dTHOUSAND cFORTY cFORTY_ dTHOUSAND cFOUR cFOUR_ dHUNDRED dTHOUSAND cNINE cNINETY cNINETY_",
    "dTHOUSAND cNINE_ dHUNDRED dTHOUSAND cONE cONE_ dHUNDRED dTHOUSAND cSEVEN cSEVENTY cSEVENTY_",
    "dTHOUSAND cSEVEN_ dHUNDRED dTHOUSAND cSIX cSIXTY cSIXTY_ dTHOUSAND cSIX_ dHUNDRED dTHOUSAND",
    "cTEN cTEN_ dTHOUSAND cTHIRTY cTHIRTY_ dTHOUSAND cTHREE cTHREE_ dHUNDRED dTHOUSAND cTWENTY",
    "cTWENTY_ dTHOUSAND cTWO cTWO_ dHUNDRED dTHOUSAND bWEIGHT_ cBASE_ dUNIT cFIRST_ dSUBUNIT",
    "cFOURTH_ dSUBUNIT cSECOND_ dSUBUNIT cTHIRD_ dSUBUNIT bWORD_ cSEPARATOR_ dDOT dLINE aAERIAL_",
    "bTRAMWAY aAFGHANI_ bSIGN aAHOM_ bCONSONANT_ cSIGN_ dMEDIAL_ eLA eLIGATING_ fRA eRA bDIGIT_",
    "cEIGHT cFIVE cFOUR cNINE cONE cSEVEN cSIX cTHREE cTWO cZERO bLETTER_ cA cALTERNATE_ dBA dGA",
    "dTA cBA cBHA cCA cCHA cDA cDDA cDDHA cDHA cGA cGHA cHA cJA cJHA cKA cKHA cLA cLLA cMA cNA",
    "cNGA cNNA cNYA cPA cPHA cRA cSA cTA cTHA cTTA cTTHA bNUMBER_ cTEN cTWENTY bSIGN_ cKILLER",
    "cRULAI cSECTION cSMALL_ dSECTION bSYMBOL_ cVI bVOWEL_ cSIGN_ dA dAA dAI dAM dAW dE dI dII",
    "dO dU dUU aAIRPLANE aAIRPLANE_ bARRIVING bDEPARTURE aAKTIESELSKAB aALARM_ bCLOCK",
    "aALCHEMICAL_ bSYMBOL_ cFOR_ dAIR dALEMBIC dALKALI dALKALI- e2 dALUM dAMALGAM dANTIMONY_",
    "eORE dAQUAFORTIS dAQUA_ eREGIA eREGIA- f2 eVITAE eVITAE- f2 dARSENIC dASHES dAURIPIGMENT",
    "dBATH_ eOF_ fMARY fVAPOURS dBISMUTH_ eORE dBLACK_ eSULFUR dBORAX dBORAX- e2 e3 dBRICK",
    "dCADUCEUS dCALX dCAPUT_ eMORTUUM dCINNABAR dCOPPER_ eANTIMONIATE eORE dCROCUS_ eOF_ fCOPPER",
    "fCOPPER- g2 fIRON dCRUCIBLE dCRUCIBLE- e2 e3 e4 e5 dDAY- eNIGHT dDISSOLVE dDISSOLVE- e2",
    "dDISTILL dEARTH dFIRE dGOLD dGUM dHALF_ eDRAM eOUNCE dHORSE_ eDUNG dHOUR dIRON- eCOPPER_",
    "fORE dIRON_ eORE eORE- f2 dLEAD_ eORE dLODESTONE dMARCASITE dMERCURY_ eSUBLIMATE",
    "eSUBLIMATE- f2 f3 dMONTH dNIGHT dNITRE dOIL dPHILOSOPHERS_ eSULFUR dPOT_ eASHES dPOWDER",
    "dPOWDERED_ eBRICK dPRECIPITATE dPURIFY dPUTREFACTION dQUICK_ eLIME dQUINTESSENCE dREALGAR",
    "dREALGAR- e2 dREGULUS dREGULUS- e2 e3 e4 dREGULUS_ eOF_ fANTIMONY fANTIMONY- g2 fIRON",
    "dRETORT dROCK_ eSALT eSALT- f2 dSAL- eAMMONIAC dSALT dSALT_ eOF_ fANTIMONY fCOPPER_",
    "gANTIMONIATE dSCEPTER_ eOF_ fJOVE dSILVER dSOAP dSPIRIT dSTARRED_ eTRIDENT dSTRATUM_",
    "eSUPER_ fSTRATUM fSTRATUM- g2 dSUBLIMATE_ eOF_ fANTIMONY fCOPPER fSALT_ gOF_ hANTIMONY",
    "hCOPPER dSUBLIMATION dSULFUR dTARTAR dTARTAR- e2 dTINCTURE dTIN_ eORE dTRIDENT dTUTTY",
    "dURINE dVERDIGRIS dVINEGAR dVINEGAR- e2 e3 dVINEGAR_ eOF_ fANTIMONY dVITRIOL dVITRIOL- e2",
    "dWATER dWAX aALEF_ bSYMBOL aALEMBIC aALERT aALIEN_ bMONSTER aALL_ bAROUND- cPROFILE bEQUAL_",
    "cTO aALM aALMOST_ bEQUAL_ cOR_ dEQUAL_ eTO cTO cTO_ dWITH_ eCIRCUMFLEX_ fACCENT aALTERNATE_",
    "bONE- cWAY_ dLEFT_ eWAY_ fTRAFFIC aALTERNATIVE_ bKEY_ cSYMBOL aAMALGAMATION_ bOR_",
    "cCOPRODUCT aAMBULANCE aAMERICAN_ bFOOTBALL aAMPERSAND aAMPHORA aANATOLIAN_ bHIEROGLYPH_",
    "cA001 cA002 cA003 cA004 cA005 cA006 cA007 cA008 cA009 cA010 cA010A cA011 cA012 cA013 cA014",
    "cA015 cA016 cA017 cA018 cA019 cA020 cA021 cA022 cA023 cA024 cA025 cA026 cA026A cA027 cA028",
    "cA029 cA030 cA031 cA032 cA033 cA034 cA035 cA036 cA037 cA038 cA039 cA039A cA040 cA041 cA041A",
    "cA042 cA043 cA044 cA045 cA045A cA046 cA046A cA046B cA047 cA048 cA049 cA050 cA051 cA052",
    "cA053 cA054 cA055 cA056 cA057 cA058 cA059 cA060 cA061 cA062 cA063 cA064 cA065 cA066 cA066A",
    "cA066B cA066C cA067 cA068 cA069 cA070 cA071 cA072 cA073 cA074 cA075 cA076 cA077 cA078 cA079",
    "cA080 cA081 cA082 cA083 cA084 cA085 cA086 cA087 cA088 cA089 cA090 cA091 cA092 cA093 cA094",
    "cA095 cA096 cA097 cA097A cA098 cA098A cA099 cA100 cA100A cA101 cA101A cA102 cA102A cA103",
    "cA104 cA104A cA104B cA104C cA105 cA105A cA105B cA106 cA107 cA107A cA107B cA107C cA108 cA109",
    "cA110 cA110A cA110B cA111 cA112 cA113 cA114 cA115 cA115A cA116 cA117 cA118 cA119 cA120",
    "cA121 cA122 cA123 cA124 cA125 cA125A cA126 cA127 cA128 cA129 cA130 cA131 cA132 cA133 cA134",
    "cA135 cA135A cA136 cA137 cA138 cA139 cA140 cA141 cA142 cA143 cA144 cA145 cA146 cA147 cA148",
    "cA149 cA150 cA151 cA152 cA153 cA154 cA155 cA156 cA157 cA158 cA159 cA160 cA161 cA162 cA163",
    "cA164 cA165 cA166 cA167 cA168 cA169 cA170 cA171 cA172 cA173 cA174 cA175 cA176 cA177 cA178",
    "cA179 cA180 cA181 cA182 cA183 cA184 cA185 cA186 cA187 cA188 cA189 cA190 cA191 cA192 cA193",
    "cA194 cA195 cA196 cA197 cA198 cA199 cA200 cA201 cA202 cA202A cA202B cA203 cA204 cA205 cA206",
    "cA207 cA207A cA208 cA209 cA209A cA210 cA211 cA212 cA213 cA214 cA215 cA215A cA216 cA216A",
    "cA217 cA218 cA219 cA220 cA221 cA222 cA223 cA224 cA225 cA226 cA227 cA227A cA228 cA229 cA230",
    "cA231 cA232 cA233 cA234 cA235 cA236 cA237 cA238 cA239 cA240 cA241 cA242 cA243 cA244 cA245",
    "cA246 cA247 cA248 cA249 cA250 cA251 cA252 cA253 cA254 cA255 cA256 cA257 cA258 cA259 cA260",
    "cA261 cA262 cA263 cA264 cA265 cA266 cA267 cA267A cA268 cA269 cA270 cA271 cA272 cA273 cA274",
    "cA275 cA276 cA277 cA278 cA279 cA280 cA281 cA282 cA283 cA284 cA285 cA286 cA287 cA288 cA289",
    "cA289A cA290 cA291 cA292 cA293 cA294 cA294A cA295 cA296 cA297 cA298 cA299 cA299A cA300",
    "cA301 cA302 cA303 cA304 cA305 cA306 cA307 cA308 cA309 cA309A cA310 cA311 cA312 cA313 cA314",
    "cA315 cA316 cA317 cA318 cA319 cA320 cA321 cA322 cA323 cA324 cA325 cA326 cA327 cA328 cA329",
    "cA329A cA330 cA331 cA332A cA332B cA332C cA333 cA334 cA335 cA336 cA336A cA336B cA336C cA337",
    "cA338 cA339 cA340 cA341 cA342 cA343 cA344 cA345 cA346 cA347 cA348 cA349 cA350 cA351 cA352",
    "cA353 cA354 cA355 cA356 cA357 cA358 cA359 cA359A cA360 cA361 cA362 cA363 cA364 cA364A cA365",
    "cA366 cA367 cA368 cA368A cA369 cA370 cA371 cA371A cA372 cA373 cA374 cA375 cA376 cA377 cA378",
    "cA379 cA380 cA381 cA381A cA382 cA383A cA383_ dRA_ eOR_ fRI cA384 cA385 cA386 cA386A cA387",
    "cA388 cA389 cA390 cA391 cA392 cA393_ dEIGHT cA394 cA395 cA396 cA397 cA398 cA399 cA400 cA401",
    "cA402 cA403 cA404 cA405 cA406 cA407 cA408 cA409 cA410A_ dEND_ eLOGOGRAM_ fMARK cA410_",
    "dBEGIN_ eLOGOGRAM_ fMARK cA411 cA412 cA413 cA414 cA415 cA416 cA417 cA418 cA419 cA420 cA421",
    "cA422 cA423 cA424 cA425 cA426 cA427 cA428 cA429 cA430 cA431 cA432 cA433 cA434 cA435 cA436",
    "cA437 cA438 cA439 cA440 cA441 cA442 cA443 cA444 cA445 cA446 cA447 cA448 cA449 cA450 cA450A",
    "cA451 cA452 cA453 cA454 cA455 cA456 cA457 cA457A cA458 cA459 cA460 cA461 cA462 cA463 cA464",
    "cA465 cA466 cA467 cA468 cA469 cA470 cA471 cA472 cA473 cA474 cA475 cA476 cA477 cA478 cA479",
    "cA480 cA481 cA482 cA483 cA484 cA485 cA486 cA487 cA488 cA489 cA490 cA491 cA492 cA493 cA494",
    "cA495 cA496 cA497 cA501 cA502 cA503 cA504 cA505 cA506 cA507 cA508 cA509 cA510 cA511 cA512",
    "cA513 cA514 cA515 cA516 cA517 cA518 cA519 cA520 cA521 cA522 cA523 cA524 cA525 cA526 cA527",
    "cA528 cA529 cA530 aANATOMICAL_ bHEART aANCHOR aAND_ bWITH_ cDOT aANGER_ bSYMBOL aANGLE",
    "aANGLE_ bWITH_ cS_ dINSIDE cUNDERBAR aANGRY_ bFACE aANGSTROM_ bSIGN aANGUISHED_ bFACE aANKH",
    "aANT aANTENNA_ bWITH_ cBARS aANTICLOCKWISE_ bCLOSED_ cCIRCLE_ dARROW bCONTOUR_ cINTEGRAL",
    "bDOWNWARDS_ cAND_ dUPWARDS_ eOPEN_ fCIRCLE_ gARROWS bGAPPED_ cCIRCLE_ dARROW bINTEGRATION",
    "bOPEN_ cCIRCLE_ dARROW bTOP_ cSEMICIRCLE_ dARROW bTRIANGLE- cHEADED_ dBOTTOM_ eU- fSHAPED_",
    "gARROW dLEFT_ eU- fSHAPED_ gARROW dOPEN_ eCIRCLE_ fARROW dRIGHT_ eU- fSHAPED_ gARROW dTOP_",
    "eU- fSHAPED_ gARROW aAPC aAPL_ bFUNCTIONAL_ cSYMBOL_ dALPHA dALPHA_ eUNDERBAR dBACKSLASH_",
    "eBAR dCIRCLE_ eBACKSLASH eDIAERESIS eJOT eSTAR eSTILE eUNDERBAR dCOMMA_ eBAR dDELTA_ eSTILE",
    "eUNDERBAR dDEL_ eDIAERESIS eSTILE eTILDE dDIAMOND_ eUNDERBAR dDOWNWARDS_ eVANE dDOWN_",
    "eCARET_ fTILDE eSHOE_ fSTILE eTACK_ fJOT fUNDERBAR dEPSILON_ eUNDERBAR dGREATER- eTHAN_",
    "fDIAERESIS dI- eBEAM dIOTA dIOTA_ eUNDERBAR dJOT_ eDIAERESIS eUNDERBAR dLEFTWARDS_ eVANE",
    "dLEFT_ eSHOE_ fSTILE dOMEGA dOMEGA_ eUNDERBAR dQUAD dQUAD_ eBACKSLASH eCIRCLE eCOLON eDEL",
    "eDELTA eDIAMOND eDIVIDE eDOWNWARDS_ fARROW eDOWN_ fCARET eEQUAL eGREATER- fTHAN eJOT",
    "eLEFTWARDS_ fARROW eLESS- fTHAN eNOT_ fEQUAL eQUESTION eRIGHTWARDS_ fARROW eSLASH eUPWARDS_",
    "fARROW eUP_ fCARET dQUOTE_ eQUAD eUNDERBAR dRHO dRIGHTWARDS_ eVANE dSEMICOLON_ eUNDERBAR",
    "dSLASH_ eBAR dSQUISH_ eQUAD dSTAR_ eDIAERESIS dSTILE_ eTILDE dTILDE_ eDIAERESIS dUPWARDS_",
    "eVANE dUP_ eCARET_ fTILDE eSHOE_ fJOT eTACK_ fDIAERESIS fJOT fOVERBAR dZILDE aAPOLLON",
    "aAPOSTROPHE aAPPLICATION_ bPROGRAM_ cCOMMAND aAPPROACHES_ bTHE_ cLIMIT aAPPROXIMATELY_",
    "bBUT_ cNOT_ dACTUALLY_ eEQUAL_ fTO bEQUAL_ cOR_ dEQUAL_ eTO cTO cTO_ dOR_ eTHE_ fIMAGE_ gOF",
    "aAQUARIUS aARABIC- bINDIC_ cCUBE_ dROOT cDIGIT_ dEIGHT dFIVE dFOUR dNINE dONE dSEVEN dSIX",
    "dTHREE dTWO dZERO cFOURTH_ dROOT cPER_ dMILLE_ eSIGN dTEN_ eTHOUSAND_ fSIGN aARABIC_",
    "bBASELINE_ cROUND_ dDOT bCOMMA bCURLY_ cDAMMA cDAMMATAN cFATHA cFATHATAN cKASRA cKASRATAN",
    "bDAMMA bDAMMATAN bDAMMATAN_ cISOLATED_ dFORM bDAMMA_ cISOLATED_ dFORM cMEDIAL_ dFORM cWITH_",
    "dDOT bDATE_ cSEPARATOR bDECIMAL_ cSEPARATOR bDISPUTED_ cEND_ dOF_ eAYAH bDOUBLED_ cMADDA",
    "bDOUBLE_ cRIGHT_ dARROWHEAD_ eABOVE eABOVE_ fWITH_ gDOT bEMPTY_ cCENTRE_ dHIGH_ eSTOP dLOW_",
    "eSTOP bEND_ cOF_ dAYAH dTEXT_ eMARK bFATHA bFATHATAN bFATHATAN_ cISOLATED_ dFORM bFATHA_",
    "cISOLATED_ dFORM cMEDIAL_ dFORM cWITH_ dDOT_ eABOVE dRING dTWO_ eDOTS bFIVE_ cPOINTED_",
    "dSTAR bFOOTNOTE_ cMARKER bFULL_ cSTOP bHALF_ cMADDA_ dOVER_ eMADDA bHAMZA_ cABOVE cBELOW",
    "bINVERTED_ cDAMMA bKASRA bKASRATAN bKASRATAN_ cISOLATED_ dFORM bKASRA_ cISOLATED_ dFORM",
    "cMEDIAL_ dFORM cWITH_ dDOT_ eBELOW bLARGE_ cCIRCLE_ dBELOW cROUND_ dDOT_ eABOVE eBELOW",
    "eINSIDE_ fCIRCLE_ gBELOW bLEFT_ cARROWHEAD_ dABOVE dBELOW bLETTER_ cAE cAFRICAN_ dFEH dNOON",
    "dQAF dQAF_ eWITH_ fTHREE_ gDOTS_ hABOVE cAIN cAIN_ dFINAL_ eFORM dINITIAL_ eFORM dISOLATED_",
    "eFORM dMEDIAL_ eFORM dWITH_ eTHREE_ fDOTS_ gABOVE gBELOW gPOINTING_ hDOWNWARDS_ iABOVE",
    "eTWO_ fDOTS_ gABOVE gVERTICALLY_ hABOVE cALEF cALEF_ dFINAL_ eFORM dISOLATED_ eFORM",
    "dMAKSURA dMAKSURA_ eFINAL_ fFORM eISOLATED_ fFORM dWASLA dWASLA_ eFINAL_ fFORM eISOLATED_",
    "fFORM dWITH_ eATTACHED_ fBOTTOM_ gRIGHT_ hKASRA hKASRA_ iAND_ jDOT_ kABOVE jLEFT_ kRING",
    "fFATHA fKASRA fLEFT_ gHAMZA gROUND_ hDOT fRIGHT_ gHAMZA gROUND_ hDOT fROUND_ gDOT_ hABOVE",
    "hBELOW fTOP_ gRIGHT_ hFATHA hFATHA_ iAND_ jDOT_ kABOVE jLEFT_ kRING eDOT_ fABOVE eEXTENDED_",
    "fARABIC- gINDIC_ hDIGIT_ iTHREE_ jABOVE iTWO_ jABOVE eHAMZA_ fABOVE fABOVE_ gFINAL_ hFORM",
    "gISOLATED_ hFORM fBELOW fBELOW_ gFINAL_ hFORM gISOLATED_ hFORM eLEFT_ fMIDDLE_ gSTROKE",
    "eMADDA_ fABOVE fABOVE_ gFINAL_ hFORM gISOLATED_ hFORM eRIGHT_ fMIDDLE_ gSTROKE gSTROKE_",
    "hAND_ iDOT_ jABOVE iLEFT_ jRING eWAVY_ fHAMZA_ gABOVE gBELOW cBEEH cBEEH_ dFINAL_ eFORM",
    "dINITIAL_ eFORM dISOLATED_ eFORM dMEDIAL_ eFORM cBEH cBEHEH cBEHEH_ dFINAL_ eFORM dINITIAL_",
    "eFORM dISOLATED_ eFORM dMEDIAL_ eFORM cBEH_ dFINAL_ eFORM dINITIAL_ eFORM dISOLATED_ eFORM",
    "dMEDIAL_ eFORM dWITH_ eDOT_ fBELOW_ gAND_ hTHREE_ iDOTS_ jABOVE eHAMZA_ fABOVE eINVERTED_",
    "fSMALL_ gV_ hBELOW eSMALL_ fMEEM_ gABOVE fV fV_ gBELOW eTHREE_ fDOTS_ gHORIZONTALLY_ hBELOW",
    "gPOINTING_ hUPWARDS_ iBELOW iBELOW_ jAND_ kTWO_ lDOTS_ mABOVE eTWO_ fDOTS_ gBELOW_ hAND_",
    "iDOT_ jABOVE cDAD cDAD_ dFINAL_ eFORM dINITIAL_ eFORM dISOLATED_ eFORM dMEDIAL_ eFORM",
    "dWITH_ eDOT_ fBELOW cDAHAL cDAHAL_ dFINAL_ eFORM dISOLATED_ eFORM cDAL cDAL_ dFINAL_ eFORM",
    "dISOLATED_ eFORM dWITH_ eDOT_ fBELOW fBELOW_ gAND_ hSMALL_ iTAH eFOUR_ fDOTS_ gABOVE",
    "eINVERTED_ fSMALL_ gV_ hBELOW fV eRING eTHREE_ fDOTS_ gABOVE_ hDOWNWARDS gBELOW eTWO_",
    "fDOTS_ gVERTICALLY_ hBELOW_ iAND_ jSMALL_ kTAH cDDAHAL cDDAHAL_ dFINAL_ eFORM dISOLATED_",
    "eFORM cDDAL cDDAL_ dFINAL_ eFORM dISOLATED_ eFORM cDOTLESS_ dBEH dFEH dQAF cDUL cDUL_",
    "dFINAL_ eFORM dISOLATED_ eFORM cDYEH cDYEH_ dFINAL_ eFORM dINITIAL_ eFORM dISOLATED_ eFORM",
    "dMEDIAL_ eFORM cE cE_ dFINAL_ eFORM dINITIAL_ eFORM dISOLATED_ eFORM dMEDIAL_ eFORM cFARSI_",
    "dYEH dYEH_ eFINAL_ fFORM eINITIAL_ fFORM eISOLATED_ fFORM eMEDIAL_ fFORM eWITH_ fEXTENDED_",
    "gARABIC- hINDIC_ iDIGIT_ jFOUR_ kBELOW jTHREE_ kABOVE jTWO_ kABOVE fINVERTED_ gV fTHREE_",
    "gDOTS_ hABOVE fTWO_ gDOTS_ hABOVE cFEH cFEH_ dFINAL_ eFORM dINITIAL_ eFORM dISOLATED_ eFORM",
    "dMEDIAL_ eFORM dWITH_ eDOT_ fBELOW fBELOW_ gAND_ hTHREE_ iDOTS_ jABOVE fMOVED_ gBELOW",
    "eTHREE_ fDOTS_ gBELOW gPOINTING_ hUPWARDS_ iBELOW eTWO_ fDOTS_ gBELOW cGAF cGAF_ dFINAL_",
    "eFORM dINITIAL_ eFORM dISOLATED_ eFORM dMEDIAL_ eFORM dWITH_ eINVERTED_ fSTROKE eRING",
    "eTHREE_ fDOTS_ gABOVE eTWO_ fDOTS_ gBELOW cGHAIN cGHAIN_ dFINAL_ eFORM dINITIAL_ eFORM",
    "dISOLATED_ eFORM dMEDIAL_ eFORM dWITH_ eDOT_ fBELOW eTHREE_ fDOTS_ gABOVE cGRAF cGUEH",
    "cGUEH_ dFINAL_ eFORM dINITIAL_ eFORM dISOLATED_ eFORM dMEDIAL_ eFORM cHAH cHAH_ dFINAL_",
    "eFORM dINITIAL_ eFORM dISOLATED_ eFORM dMEDIAL_ eFORM dWITH_ eEXTENDED_ fARABIC- gINDIC_",
    "hDIGIT_ iFOUR_ jBELOW eHAMZA_ fABOVE eINVERTED_ fSMALL_ gV_ hBELOW eSMALL_ fARABIC_",
    "gLETTER_ hTAH_ iABOVE iAND_ jTWO_ kDOTS iBELOW eTHREE_ fDOTS_ gABOVE gPOINTING_ hUPWARDS_",
    "iBELOW eTWO_ fDOTS_ gABOVE gVERTICAL_ hABOVE cHAMZA cHAMZA_ dISOLATED_ eFORM cHEH cHEH_",
    "dDOACHASHMEE dDOACHASHMEE_ eFINAL_ fFORM eINITIAL_ fFORM eISOLATED_ fFORM eMEDIAL_ fFORM",
    "dFINAL_ eFORM dGOAL dGOAL_ eFINAL_ fFORM eINITIAL_ fFORM eISOLATED_ fFORM eMEDIAL_ fFORM",
    "eWITH_ fHAMZA_ gABOVE dINITIAL_ eFORM dISOLATED_ eFORM dMEDIAL_ eFORM dWITH_ eINVERTED_ fV",
    "eYEH_ fABOVE fABOVE_ gFINAL_ hFORM gISOLATED_ hFORM cHIGH_ dHAMZA dHAMZA_ eALEF eWAW eYEH",
    "cJEEM cJEEM_ dFINAL_ eFORM dINITIAL_ eFORM dISOLATED_ eFORM dMEDIAL_ eFORM dWITH_ eTHREE_",
    "fDOTS_ gABOVE gBELOW eTWO_ fDOTS_ gABOVE cJEH cJEH_ dFINAL_ eFORM dISOLATED_ eFORM cKAF",
    "cKAF_ dFINAL_ eFORM dINITIAL_ eFORM dISOLATED_ eFORM dMEDIAL_ eFORM dWITH_ eDOT_ fABOVE",
    "fBELOW eRING eTHREE_ fDOTS_ gBELOW eTWO_ fDOTS_ gABOVE cKASHMIRI_ dYEH cKEHEH cKEHEH_",
    "dFINAL_ eFORM dINITIAL_ eFORM dISOLATED_ eFORM dMEDIAL_ eFORM dWITH_ eDOT_ fABOVE eSMALL_",
    "fV eTHREE_ fDOTS_ gABOVE gBELOW gPOINTING_ hUPWARDS_ iBELOW eTWO_ fDOTS_ gABOVE",
    "gVERTICALLY_ hBELOW cKHAH cKHAH_ dFINAL_ eFORM dINITIAL_ eFORM dISOLATED_ eFORM dMEDIAL_",
    "eFORM cKIRGHIZ_ dOE dOE_ eFINAL_ fFORM eISOLATED_ fFORM dYU dYU_ eFINAL_ fFORM eISOLATED_",
    "fFORM cLAM cLAM_ dFINAL_ eFORM dINITIAL_ eFORM dISOLATED_ eFORM dMEDIAL_ eFORM dWITH_ eBAR",
    "eDOT_ fABOVE eDOUBLE_ fBAR eSMALL_ fARABIC_ gLETTER_ hTAH_ iABOVE fV eTHREE_ fDOTS_ gABOVE",
    "gBELOW cLOW_ dALEF cMARK cMEEM cMEEM_ dFINAL_ eFORM dINITIAL_ eFORM dISOLATED_ eFORM",
    "dMEDIAL_ eFORM dWITH_ eDOT_ fABOVE fBELOW eTHREE_ fDOTS_ gABOVE cNG cNGOEH cNGOEH_ dFINAL_",
    "eFORM dINITIAL_ eFORM dISOLATED_ eFORM dMEDIAL_ eFORM cNG_ dFINAL_ eFORM dINITIAL_ eFORM",
    "dISOLATED_ eFORM dMEDIAL_ eFORM cNOON cNOON_ dFINAL_ eFORM dGHUNNA dGHUNNA_ eFINAL_ fFORM",
    "eISOLATED_ fFORM dINITIAL_ eFORM dISOLATED_ eFORM dMEDIAL_ eFORM dWITH_ eDOT_ fBELOW",
    "eINVERTED_ fSMALL_ gV eRING eSMALL_ fTAH fV eTHREE_ fDOTS_ gABOVE eTWO_ fDOTS_ gBELOW cNYEH",
    "cNYEH_ dFINAL_ eFORM dINITIAL_ eFORM dISOLATED_ eFORM dMEDIAL_ eFORM cOE cOE_ dFINAL_ eFORM",
    "dISOLATED_ eFORM cPEH cPEHEH cPEHEH_ dFINAL_ eFORM dINITIAL_ eFORM dISOLATED_ eFORM",
    "dMEDIAL_ eFORM cPEH_ dFINAL_ eFORM dINITIAL_ eFORM dISOLATED_ eFORM dMEDIAL_ eFORM dWITH_",
    "eSMALL_ fMEEM_ gABOVE fV cQAF cQAF_ dFINAL_ eFORM dINITIAL_ eFORM dISOLATED_ eFORM dMEDIAL_",
    "eFORM dWITH_ eDOT_ fABOVE fBELOW fBELOW_ gAND_ hNO_ iDOTS_ jABOVE eTHREE_ fDOTS_ gABOVE",
    "cREH cREH_ dFINAL_ eFORM dISOLATED_ eFORM dWITH_ eDOT_ fBELOW fBELOW_ gAND_ hDOT_ iABOVE",
    "eFOUR_ fDOTS_ gABOVE eHAMZA_ fABOVE eINVERTED_ fV eLOOP eRING eSMALL_ fARABIC_ gLETTER_",
    "hTAH_ iAND_ jTWO_ kDOTS fNOON_ gABOVE fV fV_ gBELOW eSTROKE eTWO_ fDOTS_ gABOVE",
    "gVERTICALLY_ hABOVE cRNOON cRNOON_ dFINAL_ eFORM dINITIAL_ eFORM dISOLATED_ eFORM dMEDIAL_",
    "eFORM cROHINGYA_ dYEH cRREH cRREH_ dFINAL_ eFORM dISOLATED_ eFORM cSAD cSAD_ dFINAL_ eFORM",
    "dINITIAL_ eFORM dISOLATED_ eFORM dMEDIAL_ eFORM dWITH_ eTHREE_ fDOTS_ gABOVE gBELOW eTWO_",
    "fDOTS_ gBELOW cSEEN cSEEN_ dFINAL_ eFORM dINITIAL_ eFORM dISOLATED_ eFORM dMEDIAL_ eFORM",
    "dWITH_ eDOT_ fBELOW_ gAND_ hDOT_ iABOVE eEXTENDED_ fARABIC- gINDIC_ hDIGIT_ iFOUR_ jABOVE",
    "eFOUR_ fDOTS_ gABOVE eINVERTED_ fV eSMALL_ fARABIC_ gLETTER_ hTAH_ iAND_ jTWO_ kDOTS",
    "eTHREE_ fDOTS_ gBELOW gBELOW_ hAND_ iTHREE_ jDOTS_ kABOVE eTWO_ fDOTS_ gVERTICALLY_ hABOVE",
    "cSHEEN cSHEEN_ dFINAL_ eFORM dINITIAL_ eFORM dISOLATED_ eFORM dMEDIAL_ eFORM dWITH_ eDOT_",
    "fBELOW cSTRAIGHT_ dWAW cSUPERSCRIPT_ dALEF cSWASH_ dKAF cTAH cTAH_ dFINAL_ eFORM dINITIAL_",
    "eFORM dISOLATED_ eFORM dMEDIAL_ eFORM dWITH_ eDOT_ fBELOW eTHREE_ fDOTS_ gABOVE gBELOW",
    "eTWO_ fDOTS_ gABOVE cTCHEH cTCHEHEH cTCHEHEH_ dFINAL_ eFORM dINITIAL_ eFORM dISOLATED_",
    "eFORM dMEDIAL_ eFORM cTCHEH_ dFINAL_ eFORM dINITIAL_ eFORM dISOLATED_ eFORM dMEDIAL_ eFORM",
    "dWITH_ eDOT_ fABOVE eSMALL_ fV cTEH cTEHEH cTEHEH_ dFINAL_ eFORM dINITIAL_ eFORM dISOLATED_",
    "eFORM dMEDIAL_ eFORM cTEH_ dFINAL_ eFORM dINITIAL_ eFORM dISOLATED_ eFORM dMARBUTA",
    "dMARBUTA_ eFINAL_ fFORM eGOAL eISOLATED_ fFORM dMEDIAL_ eFORM dWITH_ eRING eSMALL_ fTEH_",
    "gABOVE fV eTHREE_ fDOTS_ gABOVE_ hDOWNWARDS cTHAL cTHAL_ dFINAL_ eFORM dISOLATED_ eFORM",
    "cTHEH cTHEH_ dFINAL_ eFORM dINITIAL_ eFORM dISOLATED_ eFORM dMEDIAL_ eFORM cTHIN_ dYEH",
    "cTTEH cTTEHEH cTTEHEH_ dFINAL_ eFORM dINITIAL_ eFORM dISOLATED_ eFORM dMEDIAL_ eFORM cTTEH_",
    "dFINAL_ eFORM dINITIAL_ eFORM dISOLATED_ eFORM dMEDIAL_ eFORM dWITH_ eSMALL_ fV cU cUIGHUR_",
    "dKAZAKH_ eKIRGHIZ_ fALEF_ gMAKSURA_ hINITIAL_ iFORM hMEDIAL_ iFORM cU_ dFINAL_ eFORM",
    "dISOLATED_ eFORM dWITH_ eHAMZA_ fABOVE fABOVE_ gISOLATED_ hFORM cVE cVEH cVEH_ dFINAL_",
    "eFORM dINITIAL_ eFORM dISOLATED_ eFORM dMEDIAL_ eFORM cVE_ dFINAL_ eFORM dISOLATED_ eFORM",
    "cWAW cWAW_ dFINAL_ eFORM dISOLATED_ eFORM dWITH_ eDOT_ fABOVE fWITHIN eEXTENDED_ fARABIC-",
    "gINDIC_ hDIGIT_ iTHREE_ jABOVE iTWO_ jABOVE eHAMZA_ fABOVE fABOVE_ gFINAL_ hFORM gISOLATED_",
    "hFORM eRING eTWO_ fDOTS_ gABOVE cYEH cYEH_ dBARREE dBARREE_ eFINAL_ fFORM eISOLATED_ fFORM",
    "eWITH_ fEXTENDED_ gARABIC- hINDIC_ iDIGIT_ jTHREE_ kABOVE jTWO_ kABOVE fHAMZA_ gABOVE",
    "gABOVE_ hFINAL_ iFORM hISOLATED_ iFORM dFINAL_ eFORM dINITIAL_ eFORM dISOLATED_ eFORM",
    "dMEDIAL_ eFORM dWITH_ eHAMZA_ fABOVE fABOVE_ gFINAL_ hFORM gINITIAL_ hFORM gISOLATED_ hFORM",
    "gMEDIAL_ hFORM eSMALL_ fV eTAIL eTHREE_ fDOTS_ gBELOW eTWO_ fDOTS_ gBELOW_ hAND_ iDOT_",
    "jABOVE iHAMZA_ jABOVE iSMALL_ jNOON_ kABOVE cYU cYU_ dFINAL_ eFORM dISOLATED_ eFORM cZAH",
    "cZAH_ dFINAL_ eFORM dINITIAL_ eFORM dISOLATED_ eFORM dMEDIAL_ eFORM cZAIN cZAIN_ dFINAL_",
    "eFORM dISOLATED_ eFORM dWITH_ eINVERTED_ fV_ gABOVE bLIGATURE_ cAIN_ dWITH_ eALEF_",
    "fMAKSURA_ gFINAL_ hFORM gISOLATED_ hFORM eJEEM_ fINITIAL_ gFORM fISOLATED_ gFORM fWITH_",
    "gMEEM_ hFINAL_ iFORM hINITIAL_ iFORM eMEEM_ fINITIAL_ gFORM fISOLATED_ gFORM fWITH_ gALEF_",
    "hMAKSURA_ iFINAL_ jFORM gMEEM_ hFINAL_ iFORM hINITIAL_ iFORM gYEH_ hFINAL_ iFORM eYEH_",
    "fFINAL_ gFORM fISOLATED_ gFORM cAKBAR_ dISOLATED_ eFORM cALAYHAA_ dAS- eSALAAM cALAYHE_",
    "dISOLATED_ eFORM cALAYHIMAA_ dAS- eSALAAM cALAYHIM_ dAS- eSALAAM cALAYHI_ dAS- eSALAAM",
    "eSALAATU_ fWAS- gSALAAM cALEF_ dMAKSURA_ eWITH_ fSUPERSCRIPT_ gALEF_ hFINAL_ iFORM",
    "hISOLATED_ iFORM dWITH_ eFATHATAN_ fFINAL_ gFORM fISOLATED_ gFORM cALLAH_ dISOLATED_ eFORM",
    "cAZZA_ dWA_ eJALL cBEH_ dWITH_ eALEF_ fMAKSURA_ gFINAL_ hFORM gISOLATED_ hFORM eHAH_",
    "fINITIAL_ gFORM fISOLATED_ gFORM fWITH_ gYEH_ hFINAL_ iFORM eHEH_ fINITIAL_ gFORM fMEDIAL_",
    "gFORM eJEEM_ fINITIAL_ gFORM fISOLATED_ gFORM eKHAH_ fINITIAL_ gFORM fISOLATED_ gFORM",
    "fWITH_ gYEH_ hFINAL_ iFORM eMEEM_ fFINAL_ gFORM fINITIAL_ gFORM fISOLATED_ gFORM fMEDIAL_",
    "gFORM eNOON_ fFINAL_ gFORM eREH_ fFINAL_ gFORM eYEH_ fFINAL_ gFORM fISOLATED_ gFORM eZAIN_",
    "fFINAL_ gFORM cBISMILLAH_ dAR- eRAHMAN_ fAR- gRAHEEM cDAD_ dWITH_ eALEF_ fMAKSURA_ gFINAL_",
    "hFORM gISOLATED_ hFORM eHAH_ fINITIAL_ gFORM fISOLATED_ gFORM fWITH_ gALEF_ hMAKSURA_",
    "iFINAL_ jFORM gYEH_ hFINAL_ iFORM eJEEM_ fINITIAL_ gFORM fISOLATED_ gFORM eKHAH_ fINITIAL_",
    "gFORM fISOLATED_ gFORM fWITH_ gMEEM_ hFINAL_ iFORM hINITIAL_ iFORM eMEEM_ fINITIAL_ gFORM",
    "fISOLATED_ gFORM eREH_ fFINAL_ gFORM fISOLATED_ gFORM eYEH_ fFINAL_ gFORM fISOLATED_ gFORM",
    "cFEH_ dWITH_ eALEF_ fMAKSURA_ gFINAL_ hFORM gISOLATED_ hFORM eHAH_ fINITIAL_ gFORM",
    "fISOLATED_ gFORM eJEEM_ fINITIAL_ gFORM fISOLATED_ gFORM eKHAH_ fINITIAL_ gFORM fISOLATED_",
    "gFORM fWITH_ gMEEM_ hFINAL_ iFORM hINITIAL_ iFORM eMEEM_ fINITIAL_ gFORM fISOLATED_ gFORM",
    "fWITH_ gYEH_ hFINAL_ iFORM eYEH_ fFINAL_ gFORM fISOLATED_ gFORM cGHAIN_ dWITH_ eALEF_",
    "fMAKSURA_ gFINAL_ hFORM gISOLATED_ hFORM eJEEM_ fINITIAL_ gFORM fISOLATED_ gFORM eMEEM_",
    "fINITIAL_ gFORM fISOLATED_ gFORM fWITH_ gALEF_ hMAKSURA_ iFINAL_ jFORM gMEEM_ hFINAL_ iFORM",
    "gYEH_ hFINAL_ iFORM eYEH_ fFINAL_ gFORM fISOLATED_ gFORM cHAH_ dWITH_ eALEF_ fMAKSURA_",
    "gFINAL_ hFORM gISOLATED_ hFORM eJEEM_ fINITIAL_ gFORM fISOLATED_ gFORM fWITH_ gYEH_ hFINAL_",
    "iFORM eMEEM_ fINITIAL_ gFORM fISOLATED_ gFORM fWITH_ gALEF_ hMAKSURA_ iFINAL_ jFORM gYEH_",
    "hFINAL_ iFORM eYEH_ fFINAL_ gFORM fISOLATED_ gFORM cHEH_ dWITH_ eALEF_ fMAKSURA_ gISOLATED_",
    "hFORM eJEEM_ fINITIAL_ gFORM fISOLATED_ gFORM eMEEM_ fINITIAL_ gFORM fISOLATED_ gFORM",
    "fWITH_ gJEEM_ hINITIAL_ iFORM gMEEM_ hINITIAL_ iFORM eSUPERSCRIPT_ fALEF_ gINITIAL_ hFORM",
    "eYEH_ fISOLATED_ gFORM cJALLAJALALOUHOU cJEEM_ dWITH_ eALEF_ fMAKSURA_ gFINAL_ hFORM",
    "gISOLATED_ hFORM eHAH_ fINITIAL_ gFORM fISOLATED_ gFORM fWITH_ gALEF_ hMAKSURA_ iFINAL_",
    "jFORM gYEH_ hFINAL_ iFORM eMEEM_ fINITIAL_ gFORM fISOLATED_ gFORM fWITH_ gALEF_ hMAKSURA_",
    "iFINAL_ jFORM gHAH_ hFINAL_ iFORM hINITIAL_ iFORM gYEH_ hFINAL_ iFORM eYEH_ fFINAL_ gFORM",
    "fISOLATED_ gFORM cKAF_ dWITH_ eALEF_ fFINAL_ gFORM fISOLATED_ gFORM fMAKSURA_ gFINAL_ hFORM",
    "gISOLATED_ hFORM eHAH_ fINITIAL_ gFORM fISOLATED_ gFORM eJEEM_ fINITIAL_ gFORM fISOLATED_",
    "gFORM eKHAH_ fINITIAL_ gFORM fISOLATED_ gFORM eLAM_ fFINAL_ gFORM fINITIAL_ gFORM",
    "fISOLATED_ gFORM fMEDIAL_ gFORM eMEEM_ fFINAL_ gFORM fINITIAL_ gFORM fISOLATED_ gFORM",
    "fMEDIAL_ gFORM fWITH_ gMEEM_ hFINAL_ iFORM hINITIAL_ iFORM gYEH_ hFINAL_ iFORM eYEH_",
    "fFINAL_ gFORM fISOLATED_ gFORM cKHAH_ dWITH_ eALEF_ fMAKSURA_ gFINAL_ hFORM gISOLATED_",
    "hFORM eHAH_ fISOLATED_ gFORM eJEEM_ fINITIAL_ gFORM fISOLATED_ gFORM eMEEM_ fINITIAL_ gFORM",
    "fISOLATED_ gFORM eYEH_ fFINAL_ gFORM fISOLATED_ gFORM cLAM_ dWITH_ eALEF_ fFINAL_ gFORM",
    "fISOLATED_ gFORM fMAKSURA_ gFINAL_ hFORM gISOLATED_ hFORM fWITH_ gHAMZA_ hABOVE_ iFINAL_",
    "jFORM iISOLATED_ jFORM hBELOW_ iFINAL_ jFORM iISOLATED_ jFORM gMADDA_ hABOVE_ iFINAL_ jFORM",
    "iISOLATED_ jFORM eHAH_ fINITIAL_ gFORM fISOLATED_ gFORM fWITH_ gALEF_ hMAKSURA_ iFINAL_",
    "jFORM gMEEM_ hFINAL_ iFORM hINITIAL_ iFORM gYEH_ hFINAL_ iFORM eHEH_ fINITIAL_ gFORM eJEEM_",
    "fINITIAL_ gFORM fISOLATED_ gFORM fWITH_ gJEEM_ hFINAL_ iFORM hINITIAL_ iFORM gMEEM_ hFINAL_",
    "iFORM hINITIAL_ iFORM gYEH_ hFINAL_ iFORM eKHAH_ fINITIAL_ gFORM fISOLATED_ gFORM fWITH_",
    "gMEEM_ hFINAL_ iFORM hINITIAL_ iFORM eMEEM_ fFINAL_ gFORM fINITIAL_ gFORM fISOLATED_ gFORM",
    "fMEDIAL_ gFORM fWITH_ gHAH_ hFINAL_ iFORM hINITIAL_ iFORM gYEH_ hFINAL_ iFORM eYEH_ fFINAL_",
    "gFORM fISOLATED_ gFORM cMEEM_ dWITH_ eALEF_ fFINAL_ gFORM fMAKSURA_ gISOLATED_ hFORM eHAH_",
    "fINITIAL_ gFORM fISOLATED_ gFORM fWITH_ gJEEM_ hINITIAL_ iFORM gMEEM_ hINITIAL_ iFORM gYEH_",
    "hFINAL_ iFORM eJEEM_ fINITIAL_ gFORM fISOLATED_ gFORM fWITH_ gHAH_ hINITIAL_ iFORM gKHAH_",
    "hINITIAL_ iFORM gMEEM_ hINITIAL_ iFORM gYEH_ hFINAL_ iFORM eKHAH_ fINITIAL_ gFORM",
    "fISOLATED_ gFORM fWITH_ gJEEM_ hINITIAL_ iFORM gMEEM_ hINITIAL_ iFORM gYEH_ hFINAL_ iFORM",
    "eMEEM_ fFINAL_ gFORM fINITIAL_ gFORM fISOLATED_ gFORM fWITH_ gYEH_ hFINAL_ iFORM eYEH_",
    "fISOLATED_ gFORM cMOHAMMAD_ dISOLATED_ eFORM cNOON_ dWITH_ eALEF_ fMAKSURA_ gFINAL_ hFORM",
    "gISOLATED_ hFORM eHAH_ fINITIAL_ gFORM fISOLATED_ gFORM fWITH_ gALEF_ hMAKSURA_ iFINAL_",
    "jFORM gMEEM_ hINITIAL_ iFORM gYEH_ hFINAL_ iFORM eHEH_ fINITIAL_ gFORM fMEDIAL_ gFORM",
    "eJEEM_ fINITIAL_ gFORM fISOLATED_ gFORM fWITH_ gALEF_ hMAKSURA_ iFINAL_ jFORM gHAH_ hFINAL_",
    "iFORM hINITIAL_ iFORM gMEEM_ hFINAL_ iFORM hINITIAL_ iFORM gYEH_ hFINAL_ iFORM eKHAH_",
    "fINITIAL_ gFORM fISOLATED_ gFORM eMEEM_ fFINAL_ gFORM fINITIAL_ gFORM fISOLATED_ gFORM",
    "fMEDIAL_ gFORM fWITH_ gALEF_ hMAKSURA_ iFINAL_ jFORM gYEH_ hFINAL_ iFORM eNOON_ fFINAL_",
    "gFORM eREH_ fFINAL_ gFORM eYEH_ fFINAL_ gFORM fISOLATED_ gFORM eZAIN_ fFINAL_ gFORM cQAF_",
    "dWITH_ eALEF_ fMAKSURA_ gFINAL_ hFORM gISOLATED_ hFORM eHAH_ fINITIAL_ gFORM fISOLATED_",
    "gFORM eMEEM_ fINITIAL_ gFORM fISOLATED_ gFORM fWITH_ gHAH_ hFINAL_ iFORM hINITIAL_ iFORM",
    "gMEEM_ hFINAL_ iFORM gYEH_ hFINAL_ iFORM eYEH_ fFINAL_ gFORM fISOLATED_ gFORM cQALA_ dUSED_",
    "eAS_ fKORANIC_ gSTOP_ hSIGN_ iISOLATED_ jFORM cQUDDISA_ dSIRRAH cRADI_ dALLAAHU_ eANH",
    "eANHAA eANHUM eANHUMAA eANHUNNA cRAHIMAHUM_ dALLAAH cRAHIMAHU_ dALLAAH cRASOUL_ dISOLATED_",
    "eFORM cREH_ dWITH_ eSUPERSCRIPT_ fALEF_ gISOLATED_ hFORM cSAD_ dWITH_ eALEF_ fMAKSURA_",
    "gFINAL_ hFORM gISOLATED_ hFORM eHAH_ fINITIAL_ gFORM fISOLATED_ gFORM fWITH_ gHAH_ hFINAL_",
    "iFORM hINITIAL_ iFORM gYEH_ hFINAL_ iFORM eKHAH_ fINITIAL_ gFORM eMEEM_ fINITIAL_ gFORM",
    "fISOLATED_ gFORM fWITH_ gMEEM_ hFINAL_ iFORM hINITIAL_ iFORM eREH_ fFINAL_ gFORM fISOLATED_",
    "gFORM eYEH_ fFINAL_ gFORM fISOLATED_ gFORM cSALAAMUHU_ dALAYNAA cSALAM_ dISOLATED_ eFORM",
    "cSALLALLAAHU_ dALAYHI_ eWA- fAALIH cSALLALLAHOU_ dALAYHE_ eWASALLAM cSALLALLAHU_ dALAYHI_",
    "eWAAALIHEE_ fWA- gSALLAM cSALLA_ dISOLATED_ eFORM dUSED_ eAS_ fKORANIC_ gSTOP_ hSIGN_",
    "iISOLATED_ jFORM cSEEN_ dWITH_ eALEF_ fMAKSURA_ gFINAL_ hFORM gISOLATED_ hFORM eHAH_",
    "fINITIAL_ gFORM fISOLATED_ gFORM fMEDIAL_ gFORM fWITH_ gJEEM_ hINITIAL_ iFORM eHEH_",
    "fINITIAL_ gFORM fMEDIAL_ gFORM eJEEM_ fINITIAL_ gFORM fISOLATED_ gFORM fMEDIAL_ gFORM",
    "fWITH_ gALEF_ hMAKSURA_ iFINAL_ jFORM gHAH_ hINITIAL_ iFORM eKHAH_ fINITIAL_ gFORM",
    "fISOLATED_ gFORM fMEDIAL_ gFORM fWITH_ gALEF_ hMAKSURA_ iFINAL_ jFORM gYEH_ hFINAL_ iFORM",
    "eMEEM_ fINITIAL_ gFORM fISOLATED_ gFORM fMEDIAL_ gFORM fWITH_ gHAH_ hFINAL_ iFORM hINITIAL_",
    "iFORM gJEEM_ hINITIAL_ iFORM gMEEM_ hFINAL_ iFORM hINITIAL_ iFORM eREH_ fFINAL_ gFORM",
    "fISOLATED_ gFORM eYEH_ fFINAL_ gFORM fISOLATED_ gFORM cSHADDA_ dWITH_ eDAMMATAN_ fISOLATED_",
    "gFORM eDAMMA_ fISOLATED_ gFORM fMEDIAL_ gFORM eFATHA_ fISOLATED_ gFORM fMEDIAL_ gFORM",
    "eKASRATAN_ fISOLATED_ gFORM eKASRA_ fISOLATED_ gFORM fMEDIAL_ gFORM eSUPERSCRIPT_ fALEF_",
    "gISOLATED_ hFORM cSHEEN_ dWITH_ eALEF_ fMAKSURA_ gFINAL_ hFORM gISOLATED_ hFORM eHAH_",
    "fFINAL_ gFORM fINITIAL_ gFORM fISOLATED_ gFORM fMEDIAL_ gFORM fWITH_ gMEEM_ hFINAL_ iFORM",
    "hINITIAL_ iFORM gYEH_ hFINAL_ iFORM eHEH_ fINITIAL_ gFORM fMEDIAL_ gFORM eJEEM_ fFINAL_",
    "gFORM fINITIAL_ gFORM fISOLATED_ gFORM fMEDIAL_ gFORM fWITH_ gYEH_ hFINAL_ iFORM eKHAH_",
    "fFINAL_ gFORM fINITIAL_ gFORM fISOLATED_ gFORM fMEDIAL_ gFORM eMEEM_ fFINAL_ gFORM",
    "fINITIAL_ gFORM fISOLATED_ gFORM fMEDIAL_ gFORM fWITH_ gKHAH_ hFINAL_ iFORM hINITIAL_ iFORM",
    "gMEEM_ hFINAL_ iFORM hINITIAL_ iFORM eREH_ fFINAL_ gFORM fISOLATED_ gFORM eYEH_ fFINAL_",
    "gFORM fISOLATED_ gFORM cSUBHAANAHU_ dWA_ eTAAALAA cTABAARAKA_ dWA- eTAAALAA cTAH_ dWITH_",
    "eALEF_ fMAKSURA_ gFINAL_ hFORM gISOLATED_ hFORM eHAH_ fINITIAL_ gFORM fISOLATED_ gFORM",
    "eMEEM_ fINITIAL_ gFORM fISOLATED_ gFORM fMEDIAL_ gFORM fWITH_ gHAH_ hFINAL_ iFORM hINITIAL_",
    "iFORM gMEEM_ hINITIAL_ iFORM gYEH_ hFINAL_ iFORM eYEH_ fFINAL_ gFORM fISOLATED_ gFORM cTEH_",
    "dWITH_ eALEF_ fMAKSURA_ gFINAL_ hFORM gISOLATED_ hFORM eHAH_ fINITIAL_ gFORM fISOLATED_",
    "gFORM fWITH_ gJEEM_ hFINAL_ iFORM hINITIAL_ iFORM gMEEM_ hINITIAL_ iFORM eHEH_ fINITIAL_",
    "gFORM fMEDIAL_ gFORM eJEEM_ fINITIAL_ gFORM fISOLATED_ gFORM fWITH_ gALEF_ hMAKSURA_",
    "iFINAL_ jFORM gMEEM_ hINITIAL_ iFORM gYEH_ hFINAL_ iFORM eKHAH_ fINITIAL_ gFORM fISOLATED_",
    "gFORM fWITH_ gALEF_ hMAKSURA_ iFINAL_ jFORM gMEEM_ hINITIAL_ iFORM gYEH_ hFINAL_ iFORM",
    "eMEEM_ fFINAL_ gFORM fINITIAL_ gFORM fISOLATED_ gFORM fMEDIAL_ gFORM fWITH_ gALEF_",
    "hMAKSURA_ iFINAL_ jFORM gHAH_ hINITIAL_ iFORM gJEEM_ hINITIAL_ iFORM gKHAH_ hINITIAL_ iFORM",
    "gYEH_ hFINAL_ iFORM eNOON_ fFINAL_ gFORM eREH_ fFINAL_ gFORM eYEH_ fFINAL_ gFORM fISOLATED_",
    "gFORM eZAIN_ fFINAL_ gFORM cTHAL_ dWITH_ eSUPERSCRIPT_ fALEF_ gISOLATED_ hFORM cTHEH_",
    "dWITH_ eALEF_ fMAKSURA_ gFINAL_ hFORM gISOLATED_ hFORM eHEH_ fMEDIAL_ gFORM eJEEM_",
    "fISOLATED_ gFORM eMEEM_ fFINAL_ gFORM fINITIAL_ gFORM fISOLATED_ gFORM fMEDIAL_ gFORM",
    "eNOON_ fFINAL_ gFORM eREH_ fFINAL_ gFORM eYEH_ fFINAL_ gFORM fISOLATED_ gFORM eZAIN_",
    "fFINAL_ gFORM cUIGHUR_ dKIRGHIZ_ eYEH_ fWITH_ gHAMZA_ hABOVE_ iWITH_ jALEF_ kMAKSURA_",
    "lFINAL_ mFORM lINITIAL_ mFORM lISOLATED_ mFORM cWASALLAM_ dISOLATED_ eFORM cYEH_ dWITH_",
    "eALEF_ fMAKSURA_ gFINAL_ hFORM gISOLATED_ hFORM eHAH_ fINITIAL_ gFORM fISOLATED_ gFORM",
    "fWITH_ gYEH_ hFINAL_ iFORM eHAMZA_ fABOVE_ gWITH_ hAE_ iFINAL_ jFORM iISOLATED_ jFORM",
    "hALEF_ iFINAL_ jFORM iISOLATED_ jFORM iMAKSURA_ jFINAL_ kFORM jISOLATED_ kFORM hE_ iFINAL_",
    "jFORM iINITIAL_ jFORM iISOLATED_ jFORM hHAH_ iINITIAL_ jFORM iISOLATED_ jFORM hHEH_",
    "iINITIAL_ jFORM iMEDIAL_ jFORM hJEEM_ iINITIAL_ jFORM iISOLATED_ jFORM hKHAH_ iINITIAL_",
    "jFORM hMEEM_ iFINAL_ jFORM iINITIAL_ jFORM iISOLATED_ jFORM iMEDIAL_ jFORM hNOON_ iFINAL_",
    "jFORM hOE_ iFINAL_ jFORM iISOLATED_ jFORM hREH_ iFINAL_ jFORM hU_ iFINAL_ jFORM iISOLATED_",
    "jFORM hWAW_ iFINAL_ jFORM iISOLATED_ jFORM hYEH_ iFINAL_ jFORM iISOLATED_ jFORM hYU_",
    "iFINAL_ jFORM iISOLATED_ jFORM hZAIN_ iFINAL_ jFORM eHEH_ fINITIAL_ gFORM fMEDIAL_ gFORM",
    "eJEEM_ fINITIAL_ gFORM fISOLATED_ gFORM fWITH_ gYEH_ hFINAL_ iFORM eKHAH_ fINITIAL_ gFORM",
    "fISOLATED_ gFORM eMEEM_ fFINAL_ gFORM fINITIAL_ gFORM fISOLATED_ gFORM fMEDIAL_ gFORM",
    "fWITH_ gMEEM_ hFINAL_ iFORM hINITIAL_ iFORM gYEH_ hFINAL_ iFORM eNOON_ fFINAL_ gFORM eREH_",
    "fFINAL_ gFORM eYEH_ fFINAL_ gFORM fISOLATED_ gFORM eZAIN_ fFINAL_ gFORM cZAH_ dWITH_ eMEEM_",
    "fINITIAL_ gFORM fISOLATED_ gFORM fMEDIAL_ gFORM bMADDAH_ cABOVE bMADDA_ cWAAJIB bMARK_",
    "cNOON_ dGHUNNA cSIDEWAYS_ dNOON_ eGHUNNA bMATHEMATICAL_ cAIN cALEF cBEH cDAD cDAL cDOTLESS_",
    "dBEH dFEH dNOON dQAF cDOUBLE- dSTRUCK_ eAIN eBEH eDAD eDAL eFEH eGHAIN eHAH eJEEM eKHAH",
    "eLAM eMEEM eNOON eQAF eREH eSAD eSEEN eSHEEN eTAH eTEH eTHAL eTHEH eWAW eYEH eZAH eZAIN",
    "cFEH cGHAIN cHAH cINITIAL_ dAIN dBEH dDAD dFEH dGHAIN dHAH dHEH dJEEM dKAF dKHAH dLAM dMEEM",
    "dNOON dQAF dSAD dSEEN dSHEEN dTEH dTHEH dYEH cJEEM cKAF cKHAH cLAM cLOOPED_ dAIN dALEF dBEH",
    "dDAD dDAL dFEH dGHAIN dHAH dHEH dJEEM dKHAH dLAM dMEEM dNOON dQAF dREH dSAD dSEEN dSHEEN",
    "dTAH dTEH dTHAL dTHEH dWAW dYEH dZAH dZAIN cMEEM cNOON cOPERATOR_ dHAH_ eWITH_ fDAL dMEEM_",
    "eWITH_ fHAH_ gWITH_ hTATWEEL cQAF cREH cSAD cSEEN cSHEEN cSTRETCHED_ dAIN dBEH dDAD",
    "dDOTLESS_ eBEH eFEH dFEH dGHAIN dHAH dHEH dJEEM dKAF dKHAH dMEEM dNOON dQAF dSAD dSEEN",
    "dSHEEN dTAH dTEH dTHEH dYEH dZAH cTAH cTAILED_ dAIN dDAD dDOTLESS_ eNOON eQAF dGHAIN dHAH",
    "dJEEM dKHAH dLAM dNOON dQAF dSAD dSEEN dSHEEN dYEH cTEH cTHAL cTHEH cWAW cYEH cZAH cZAIN",
    "bNUMBER_ cMARK_ dABOVE cSIGN bOPEN_ cDAMMATAN cFATHATAN cKASRATAN bPERCENT_ cSIGN bPIASTRE_",
    "cMARK_ dABOVE bPLACE_ cOF_ dSAJDAH bPOETIC_ cVERSE_ dSIGN bPOUND_ cMARK_ dABOVE bQUESTION_",
    "cMARK bRAISED_ cROUND_ dDOT bRAY bREVERSED_ cDAMMA bRIGHT_ cARROWHEAD_ dABOVE dABOVE_",
    "eWITH_ fDOT dBELOW bROUNDED_ cHIGH_ dSTOP_ eWITH_ fFILLED_ gCENTRE bSEMICOLON bSHADDA",
    "bSHADDA_ cISOLATED_ dFORM cMEDIAL_ dFORM bSIGN_ cALAYHE_ dASSALLAM cMISRA cRADI_ dALLAHOU_",
    "eANHU cRAHMATULLAH_ dALAYHE cSAFHA cSALLALLAHOU_ dALAYHE_ eWASSALLAM cSAMVAT cSANAH",
    "cSINDHI_ dAMPERSAND dPOSTPOSITION_ eMEN cTAKHALLUS bSMALL_ cDAMMA cFARSI_ dYEH cFATHA",
    "cHIGH_ dAIN dDOTLESS_ eHEAD_ fOF_ gKHAH dFARSI_ eYEH dFOOTNOTE_ eMARKER dJEEM dLAM_ eALEF",
    "dLIGATURE_ eALEF_ fWITH_ gLAM_ hWITH_ iYEH eQAF_ fWITH_ gLAM_ hWITH_ iALEF_ jMAKSURA eSAD_",
    "fWITH_ gLAM_ hWITH_ iALEF_ jMAKSURA dMADDA dMEEM_ eINITIAL_ fFORM eISOLATED_ fFORM dNOON",
    "dNOON_ eWITH_ fKASRA dQAF dROUNDED_ eZERO dSAD dSEEN dSIGN_ eSAFHA dTAH dTHREE_ eDOTS",
    "dUPRIGHT_ eRECTANGULAR_ fZERO dWAW dWORD_ eAL- fJUZ eAN- fNISF eAR- fRUB eAS- fSAJDA eATH-",
    "fTHALATHA eQIF eSAH eSAKTA eWAQFA dYEH dYEH_ eBARREE_ fWITH_ gTWO_ hDOTS_ iBELOW dZAH dZAIN",
    "cKASRA cLOW_ dMEEM dNOON_ eWITH_ fKASRA dSEEN dWAW dWORD_ eIMAALA eISHMAAM eTASHEEL cWAW",
    "cYEH bSTART_ cOF_ dRUB_ eEL_ fHIZB bSUBSCRIPT_ cALEF bSUKUN bSUKUN_ cBELOW cISOLATED_ dFORM",
    "cMEDIAL_ dFORM bSUPERSCRIPT_ cALEF_ dMOKHASSAS bSYMBOL_ cDOT_ dABOVE dBELOW cDOUBLE_",
    "dVERTICAL_ eBAR_ fBELOW cFOUR_ dDOTS_ eABOVE eBELOW cRING cSMALL_ dTAH_ eABOVE eBELOW",
    "cTHREE_ dDOTS_ eABOVE eBELOW ePOINTING_ fDOWNWARDS_ gABOVE gBELOW cTWO_ dDOTS_ eABOVE",
    "eBELOW eVERTICALLY_ fABOVE fBELOW cWASLA_ dABOVE bTAIL_ cFRAGMENT bTATWEEL bTATWEEL_ cWITH_",
    "dFATHATAN_ eABOVE dOVERSTRUCK_ eHAMZA eWAW dTWO_ eDOTS_ fBELOW bTHOUSANDS_ cSEPARATOR",
    "bTONE_ cLOOP_ dABOVE dBELOW cONE_ dDOT_ eABOVE eBELOW cTWO_ dDOTS_ eABOVE eBELOW bTRIPLE_",
    "cDOT_ dPUNCTUATION_ eMARK bTURNED_ cDAMMA_ dBELOW bVERTICAL_ cTAIL bVOWEL_ cSIGN_ dDOT_",
    "eBELOW dINVERTED_ eSMALL_ fV_ gABOVE dSMALL_ eV_ fABOVE bWAVY_ cHAMZA_ dBELOW bZWARAKAY",
    "aARC aARIES aARMENIAN_ bABBREVIATION_ cMARK bAPOSTROPHE bCAPITAL_ cLETTER_ dAYB dBEN dCA",
    "dCHA dCHEH dCO dDA dECH dEH dET dFEH dGHAD dGIM dHO dINI dJA dJHEH dKEH dKEN dLIWN dMEN",
    "dNOW dOH dPEH dPIWR dRA dREH dSEH dSHA dTIWN dTO dVEW dVO dXEH dYI dYIWN dZA dZHE bCOMMA",
    "bDRAM_ cSIGN bEMPHASIS_ cMARK bEXCLAMATION_ cMARK bFULL_ cSTOP bHYPHEN bMODIFIER_ cLETTER_",
    "dLEFT_ eHALF_ fRING bQUESTION_ cMARK bSMALL_ cLETTER_ dAYB dBEN dCA dCHA dCHEH dCO dDA dECH",
    "dEH dET dFEH dGHAD dGIM dHO dINI dJA dJHEH dKEH dKEN dLIWN dMEN dNOW dOH dPEH dPIWR dRA",
    "dREH dSEH dSHA dTIWN dTO dTURNED_ eAYB dVEW dVO dXEH dYI dYIWN dYI_ eWITH_ fSTROKE dZA dZHE",
    "cLIGATURE_ dECH_ eYIWN dMEN_ eECH eINI eNOW eXEH dVEW_ eNOW aARROWHEAD- bSHAPED_ cPOINTER",
    "aARROW_ bPOINTING_ cDOWNWARDS_ dTHEN_ eCURVING_ fLEFTWARDS fRIGHTWARDS cRIGHTWARDS_ dTHEN_",
    "eCURVING_ fDOWNWARDS fSOUTH_ gWEST fUPWARDS cUPWARDS_ dTHEN_ eNORTH_ fWEST aARTICULATED_",
    "bLORRY aARTIST_ bPALETTE aASCENDING_ bNODE aASCIA_ bSYMBOL aASSERTION aASTERISK aASTERISK_",
    "bOPERATOR aASTERISM aASTONISHED_ bFACE aASTRAEA aASTRONOMICAL_ bSYMBOL_ cFOR_ dURANUS",
    "aASYMPTOTICALLY_ bEQUAL_ cTO aATHLETIC_ bSHOE aATOM_ bSYMBOL aAUBERGINE aAUSTRAL_ bSIGN",
    "aAUTOMATED_ bTELLER_ cMACHINE aAUTOMOBILE aAUTO_ bRICKSHAW aAVESTAN_ bABBREVIATION_ cMARK",
    "bLETTER_ cA cAA cAAN cAAO cAE cAEE cAN cAO cBE cBHE cCE cDE cDHE cE cEE cFE cGE cGGE cGHE",
    "cHE cHME cI cII cJE cKE cLE cME cNE cNGE cNGVE cNGYE cNNE cNYE cO cOO cPE cRE cSE cSHE",
    "cSHYE cSSHE cTE cTHE cTTE cU cUU cVE cXE cXVE cXYE cYE cYYE cZE cZHE aAVOCADO aAXE"]

end GoMetrics.Text.CharName
