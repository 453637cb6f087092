/-!
Names of characters that begin with the letters T to Z, as a tree of their words (Unicode 14).
-/

namespace GoMetrics.Text.CharName

def namesTToZ : List String :=
  ["aT- bREX bSHIRT aTAB aTABLE_ bTENNIS_ cPADDLE_ dAND_ eBALL aTACO aTAGALOG_ bLETTER_ cA",
    "cARCHAIC_ dRA cBA cDA cGA cHA cI cKA cLA cMA cNA cNGA cPA cRA cSA cTA cU cWA cYA bSIGN_",
    "cPAMUDPOD cVIRAMA bVOWEL_ cSIGN_ dI dU aTAGBANWA_ bLETTER_ cA cBA cDA cGA cI cKA cLA cMA",
    "cNA cNGA cPA cSA cTA cU cWA cYA bVOWEL_ cSIGN_ dI dU aTAG_ bAMPERSAND bAPOSTROPHE bASTERISK",
    "bCIRCUMFLEX_ cACCENT bCOLON bCOMMA bCOMMERCIAL_ cAT bDIGIT_ cEIGHT cFIVE cFOUR cNINE cONE",
    "cSEVEN cSIX cTHREE cTWO cZERO bDOLLAR_ cSIGN bEQUALS_ cSIGN bEXCLAMATION_ cMARK bFULL_",
    "cSTOP bGRAVE_ cACCENT bGREATER- cTHAN_ dSIGN bHYPHEN- cMINUS bLATIN_ cCAPITAL_ dLETTER_ eA",
    "eB eC eD eE eF eG eH eI eJ eK eL eM eN eO eP eQ eR eS eT eU eV eW eX eY eZ cSMALL_ dLETTER_",
    "eA eB eC eD eE eF eG eH eI eJ eK eL eM eN eO eP eQ eR eS eT eU eV eW eX eY eZ bLEFT_",
    "cCURLY_ dBRACKET cPARENTHESIS cSQUARE_ dBRACKET bLESS- cTHAN_ dSIGN bLOW_ cLINE bNUMBER_",
    "cSIGN bPERCENT_ cSIGN bPLUS_ cSIGN bQUESTION_ cMARK bQUOTATION_ cMARK bREVERSE_ cSOLIDUS",
    "bRIGHT_ cCURLY_ dBRACKET cPARENTHESIS cSQUARE_ dBRACKET bSEMICOLON bSOLIDUS bSPACE bTILDE",
    "bVERTICAL_ cLINE aTAI_ bLE_ cLETTER_ dA dAI dAUE dE dEE dEH dFA dHA dI dKA dKHA dLA dMA dNA",
    "dNGA dO dOO dPA dPHA dQA dSA dTA dTHA dTONE- e2 e3 e4 e5 e6 dTSA dTSHA dU dUE dVA dXA dYA",
    "bTHAM_ cCOMBINING_ dCRYPTOGRAMMIC_ eDOT cCONSONANT_ dSIGN_ eBA eFINAL_ fNGA eHIGH_ fRATHA_",
    "gOR_ hLOW_ iPA eLA_ fTANG_ gLAI eLOW_ fPA eMA eMEDIAL_ fLA fRA eSA cHORA_ dDIGIT_ eEIGHT",
    "eFIVE eFOUR eNINE eONE eSEVEN eSIX eTHREE eTWO eZERO cLETTER_ dA dBA dDA dEE dGREAT_ eSA",
    "dHIGH_ eCA eCHA eFA eHA eKA eKHA eKXA ePA ePHA eRATHA eSA eSHA eSSA eTA eTHA eYA dI dII dLA",
    "dLAE dLLA dLOW_ eCA eCHA eFA eHA eKA eKHA eKXA ePA ePHA eRATHA eSA eTA eTHA eYA dLUE dMA",
    "dNA dNGA dNYA dOO dRA dRANA dRATA dRUE dU dUU dWA cSIGN_ dCAANG dDOKMAI dHANG dHOY dKAAN",
    "dKAANKUU dKEOW dKHUEN- eLUE_ fKARAN dKHUEN_ eTONE- f3 f4 f5 dMAI_ eKANG eKANG_ fLAI eSAM",
    "eYAMOK dRA_ eHAAM dREVERSED_ eROTATED_ fRANA dSAKOT dSATKAAN dSATKAANKUU dSAWAN dTONE- e1",
    "e2 dWIANG dWIANGWAAK cTHAM_ dDIGIT_ eEIGHT eFIVE eFOUR eNINE eONE eSEVEN eSIX eTHREE eTWO",
    "eZERO cVOWEL_ dSIGN_ eA eAA eAE eAI eE eI eII eMAI_ fSAT eO eOA_ fABOVE fBELOW eOO eOY",
    "eTALL_ fAA eTHAM_ fAI eU eUE eUU eUUE bVIET_ cLETTER_ dHIGH_ eBO eCHO eCO eDO eFO eGO eHO",
    "eKHHO eKHO eKO eLO eMO eNGO eNO eNYO eO ePHO ePO eRO eSO eTHO eTO eVO eYO dLOW_ eBO eCHO",
    "eCO eDO eFO eGO eHO eKHHO eKHO eKO eLO eMO eNGO eNO eNYO eO ePHO ePO eRO eSO eTHO eTO eVO",
    "eYO cMAI_ dKANG dKHIT cSYMBOL_ dHO_ eHOI dKOI_ eKOI dKON dNUENG dSAM cTONE_ dMAI_ eEK",
    "eNUENG eSONG eTHO cVOWEL_ dAA dAM dAN dAUE dAY dE dI dIA dO dU dUA dUE dUEA aTAKEOUT_ bBOX",
    "aTAKRI_ bABBREVIATION_ cSIGN bDIGIT_ cEIGHT cFIVE cFOUR cNINE cONE cSEVEN cSIX cTHREE cTWO",
    "cZERO bLETTER_ cA cAA cAI cARCHAIC_ dKHA cAU cBA cBHA cCA cCHA cDA cDDA cDDHA cDHA cE cGA",
    "cGHA cHA cI cII cJA cJHA cKA cKHA cLA cMA cNA cNGA cNNA cNYA cO cPA cPHA cRA cRRA cSA cSHA",
    "cTA cTHA cTTA cTTHA cU cUU cVA cYA bSIGN_ cANUSVARA cNUKTA cVIRAMA cVISARGA bVOWEL_ cSIGN_",
    "dAA dAI dAU dE dI dII dO dU dUU aTALLY_ bMARK_ cFIVE cONE aTAMALE aTAMIL_ bAND_ cODD_ dSIGN",
    "bAS_ cABOVE_ dSIGN bAU_ cLENGTH_ dMARK bCREDIT_ cSIGN bCURRENT_ cSIGN bDAY_ cSIGN bDEBIT_",
    "cSIGN bDIGIT_ cEIGHT cFIVE cFOUR cNINE cONE cSEVEN cSIX cTHREE cTWO cZERO bDRY_",
    "cCULTIVATION_ dSIGN bFRACTION_ cDOWNSCALING_ dFACTOR_ eKIIZH cONE_ dEIGHTH dEIGHTIETH",
    "dFIFTH dFORTIETH dHALF- e1 e2 dONE- eHUNDRED- fAND- gSIXTIETH dQUARTER dSIXTEENTH- e1 e2",
    "dSIXTY- eFOURTH dTENTH dTHIRTY- eSECOND dTHREE- eHUNDRED- fAND- gTWENTIETH dTWENTIETH",
    "cTHREE_ dEIGHTIETHS dQUARTERS dSIXTEENTHS dSIXTY- eFOURTHS dTWENTIETHS bIN_ cPOSSESSION_",
    "dSIGN bLAND_ cSIGN bLETTER_ cA cAA cAI cAU cCA cE cEE cHA cI cII cJA cKA cLA cLLA cLLLA cMA",
    "cNA cNGA cNNA cNNNA cNYA cO cOO cPA cRA cRRA cSA cSHA cSSA cTA cTTA cU cUU cVA cYA bMONTH_",
    "cSIGN bNUMBER_ cONE_ dHUNDRED dTHOUSAND cSIGN cTEN bOM bPUNCTUATION_ cEND_ dOF_ eTEXT",
    "bRUPEE_ cSIGN bSALT_ cPAN_ dSIGN bSIGN_ cAAZHAAKKU cANUSVARA cCEVITU cKAACU cKURUNI cKUZHI",
    "cMUKKURUNI cMUTHALIYA cMUUVUZHAKKU cNEL cPAARAM cPANAM cPATHAKKU cPON cUZHAKKU cVAKAIYARAA",
    "cVARAAKAN cVELI cVIRAMA cVISARGA bSPENT_ cSIGN bSTARTING_ cFROM_ dSIGN bTOTAL_ cSIGN",
    "bTRADITIONAL_ cCREDIT_ dSIGN cNUMBER_ dSIGN bVOWEL_ cSIGN_ dAA dAI dAU dE dEE dI dII dO dOO",
    "dU dUU bWET_ cCULTIVATION_ dSIGN bYEAR_ cSIGN aTANABATA_ bTREE aTANGERINE aTANGSA_ bDIGIT_",
    "cEIGHT cFIVE cFOUR cNINE cONE cSEVEN cSIX cTHREE cTWO cZERO bLETTER_ cAC cAQ cAWC cAWQ cAWX",
    "cAWZ cAX cAZ cBA cCA cCHA cDA cDHA cEC cEQ cEX cEZ cFA cFINAL_ dNG cGA cGHA cHA cHTA cHTTA",
    "cIC cIQ cIX cIZ cKA cKHA cLA cLONG_ dUEX cMA cMC cMQ cMX cMZ cNA cNGA cNHA cNYA cOC cOQ cOX",
    "cOZ cPA cPHA cRA cSA cSHA cSHORT_ dAWX dUEZ cTA cTHA cTSA cUC cUEC cUEQ cUEX cUEZ cUIC cUIQ",
    "cUIUC cUIUQ cUIUX cUIUZ cUIX cUIZ cUQ cUX cUZ cVC cVQ cVX cVZ cWA cXA cYA cZA aTANGUT_",
    "bCOMPONENT- c001 c002 c003 c004 c005 c006 c007 c008 c009 c010 c011 c012 c013 c014 c015 c016",
    "c017 c018 c019 c020 c021 c022 c023 c024 c025 c026 c027 c028 c029 c030 c031 c032 c033 c034",
    "c035 c036 c037 c038 c039 c040 c041 c042 c043 c044 c045 c046 c047 c048 c049 c050 c051 c052",
    "c053 c054 c055 c056 c057 c058 c059 c060 c061 c062 c063 c064 c065 c066 c067 c068 c069 c070",
    "c071 c072 c073 c074 c075 c076 c077 c078 c079 c080 c081 c082 c083 c084 c085 c086 c087 c088",
    "c089 c090 c091 c092 c093 c094 c095 c096 c097 c098 c099 c100 c101 c102 c103 c104 c105 c106",
    "c107 c108 c109 c110 c111 c112 c113 c114 c115 c116 c117 c118 c119 c120 c121 c122 c123 c124",
    "c125 c126 c127 c128 c129 c130 c131 c132 c133 c134 c135 c136 c137 c138 c139 c140 c141 c142",
    "c143 c144 c145 c146 c147 c148 c149 c150 c151 c152 c153 c154 c155 c156 c157 c158 c159 c160",
    "c161 c162 c163 c164 c165 c166 c167 c168 c169 c170 c171 c172 c173 c174 c175 c176 c177 c178",
    "c179 c180 c181 c182 c183 c184 c185 c186 c187 c188 c189 c190 c191 c192 c193 c194 c195 c196",
    "c197 c198 c199 c200 c201 c202 c203 c204 c205 c206 c207 c208 c209 c210 c211 c212 c213 c214",
    "c215 c216 c217 c218 c219 c220 c221 c222 c223 c224 c225 c226 c227 c228 c229 c230 c231 c232",
    "c233 c234 c235 c236 c237 c238 c239 c240 c241 c242 c243 c244 c245 c246 c247 c248 c249 c250",
    "c251 c252 c253 c254 c255 c256 c257 c258 c259 c260 c261 c262 c263 c264 c265 c266 c267 c268",
    "c269 c270 c271 c272 c273 c274 c275 c276 c277 c278 c279 c280 c281 c282 c283 c284 c285 c286",
    "c287 c288 c289 c290 c291 c292 c293 c294 c295 c296 c297 c298 c299 c300 c301 c302 c303 c304",
    "c305 c306 c307 c308 c309 c310 c311 c312 c313 c314 c315 c316 c317 c318 c319 c320 c321 c322",
    "c323 c324 c325 c326 c327 c328 c329 c330 c331 c332 c333 c334 c335 c336 c337 c338 c339 c340",
    "c341 c342 c343 c344 c345 c346 c347 c348 c349 c350 c351 c352 c353 c354 c355 c356 c357 c358",
    "c359 c360 c361 c362 c363 c364 c365 c366 c367 c368 c369 c370 c371 c372 c373 c374 c375 c376",
    "c377 c378 c379 c380 c381 c382 c383 c384 c385 c386 c387 c388 c389 c390 c391 c392 c393 c394",
    "c395 c396 c397 c398 c399 c400 c401 c402 c403 c404 c405 c406 c407 c408 c409 c410 c411 c412",
    "c413 c414 c415 c416 c417 c418 c419 c420 c421 c422 c423 c424 c425 c426 c427 c428 c429 c430",
    "c431 c432 c433 c434 c435 c436 c437 c438 c439 c440 c441 c442 c443 c444 c445 c446 c447 c448",
    "c449 c450 c451 c452 c453 c454 c455 c456 c457 c458 c459 c460 c461 c462 c463 c464 c465 c466",
    "c467 c468 c469 c470 c471 c472 c473 c474 c475 c476 c477 c478 c479 c480 c481 c482 c483 c484",
    "c485 c486 c487 c488 c489 c490 c491 c492 c493 c494 c495 c496 c497 c498 c499 c500 c501 c502",
    "c503 c504 c505 c506 c507 c508 c509 c510 c511 c512 c513 c514 c515 c516 c517 c518 c519 c520",
    "c521 c522 c523 c524 c525 c526 c527 c528 c529 c530 c531 c532 c533 c534 c535 c536 c537 c538",
    "c539 c540 c541 c542 c543 c544 c545 c546 c547 c548 c549 c550 c551 c552 c553 c554 c555 c556",
    "c557 c558 c559 c560 c561 c562 c563 c564 c565 c566 c567 c568 c569 c570 c571 c572 c573 c574",
    "c575 c576 c577 c578 c579 c580 c581 c582 c583 c584 c585 c586 c587 c588 c589 c590 c591 c592",
    "c593 c594 c595 c596 c597 c598 c599 c600 c601 c602 c603 c604 c605 c606 c607 c608 c609 c610",
    "c611 c612 c613 c614 c615 c616 c617 c618 c619 c620 c621 c622 c623 c624 c625 c626 c627 c628",
    "c629 c630 c631 c632 c633 c634 c635 c636 c637 c638 c639 c640 c641 c642 c643 c644 c645 c646",
    "c647 c648 c649 c650 c651 c652 c653 c654 c655 c656 c657 c658 c659 c660 c661 c662 c663 c664",
    "c665 c666 c667 c668 c669 c670 c671 c672 c673 c674 c675 c676 c677 c678 c679 c680 c681 c682",
    "c683 c684 c685 c686 c687 c688 c689 c690 c691 c692 c693 c694 c695 c696 c697 c698 c699 c700",
    "c701 c702 c703 c704 c705 c706 c707 c708 c709 c710 c711 c712 c713 c714 c715 c716 c717 c718",
    "c719 c720 c721 c722 c723 c724 c725 c726 c727 c728 c729 c730 c731 c732 c733 c734 c735 c736",
    "c737 c738 c739 c740 c741 c742 c743 c744 c745 c746 c747 c748 c749 c750 c751 c752 c753 c754",
    "c755 c756 c757 c758 c759 c760 c761 c762 c763 c764 c765 c766 c767 c768 bITERATION_ cMARK",
    "aTAPE_ bCARTRIDGE bDRIVE aTAURUS aTAXI aTEACUP_ bWITHOUT_ cHANDLE aTEAPOT aTEAR- bOFF_",
    "cCALENDAR aTEARDROP- bBARBED_ cRIGHTWARDS_ dARROW bSPOKED_ cASTERISK aTEDDY_ bBEAR",
    "aTELEPHONE_ bLOCATION_ cSIGN bON_ cTOP_ dOF_ eMODEM bRECEIVER bRECEIVER_ cWITH_ dPAGE",
    "bRECORDER bSIGN aTELESCOPE aTELEVISION aTELUGU_ bAI_ cLENGTH_ dMARK bDIGIT_ cEIGHT cFIVE",
    "cFOUR cNINE cONE cSEVEN cSIX cTHREE cTWO cZERO bFRACTION_ cDIGIT_ dONE_ eFOR_ fEVEN_",
    "gPOWERS_ hOF_ iFOUR fODD_ gPOWERS_ hOF_ iFOUR dTHREE_ eFOR_ fEVEN_ gPOWERS_ hOF_ iFOUR",
    "fODD_ gPOWERS_ hOF_ iFOUR dTWO_ eFOR_ fEVEN_ gPOWERS_ hOF_ iFOUR fODD_ gPOWERS_ hOF_ iFOUR",
    "dZERO_ eFOR_ fODD_ gPOWERS_ hOF_ iFOUR bLENGTH_ cMARK bLETTER_ cA cAA cAI cAU cBA cBHA cCA",
    "cCHA cDA cDDA cDDHA cDHA cDZA cE cEE cGA cGHA cHA cI cII cJA cJHA cKA cKHA cLA cLLA cLLLA",
    "cMA cNA cNAKAARA_ dPOLLU cNGA cNNA cNYA cO cOO cPA cPHA cRA cRRA cRRRA cSA cSHA cSSA cTA",
    "cTHA cTSA cTTA cTTHA cU cUU cVA cVOCALIC_ dL dLL dR dRR cYA bSIGN_ cANUSVARA cAVAGRAHA",
    "cCANDRABINDU cCOMBINING_ dANUSVARA_ eABOVE dCANDRABINDU_ eABOVE cNUKTA cSIDDHAM cTUUMU",
    "cVIRAMA cVISARGA bVOWEL_ cSIGN_ dAA dAI dAU dE dEE dI dII dO dOO dU dUU dVOCALIC_ eL eLL eR",
    "eRR aTENGE_ bSIGN aTENNIS_ bRACQUET_ cAND_ dBALL aTENT aTEST_ bTUBE aTETRAGRAM_ bFOR_",
    "cACCUMULATION cADVANCE cAGGRAVATION cASCENT cBARRIER cBOLD_ dRESOLUTION cBRANCHING_ dOUT",
    "cCENTRE cCHANGE cCLOSED_ dMOUTH cCLOSENESS cCLOSURE cCOMPLETION cCOMPLIANCE cCONSTANCY",
    "cCONTACT cCONTENTION cCONTRARIETY cDARKENING cDECISIVENESS cDEFECTIVENESS_ dOR_ eDISTORTION",
    "cDEPARTURE cDIFFICULTIES cDIMINISHMENT cDIMMING cDIVERGENCE cDOUBT cDUTIES cEASE",
    "cEMBELLISHMENT cENCOUNTERS cENDEAVOUR cENLARGEMENT cETERNITY cEXHAUSTION cFAILURE cFLIGHT",
    "cFOLLOWING cFOSTERING cFULLNESS cFULL_ dCIRCLE cGATHERING cGATHERING_ dIN cGOING_ dTO_",
    "eMEET cGREATNESS cGUARDEDNESS cHARDNESS cHOLDING_ dBACK cINCREASE cINNER cJOY cKEEPING_",
    "dSMALL cKINSHIP cLABOURING cLAW_ dOR_ eMODEL cLEGION cMASSING cMEASURE cMIRED cON_ dTHE_",
    "eVERGE cOPPOSITION cPACKING cPATTERN cPENETRATION cPURITY cREACH cRELEASE cRESIDENCE",
    "cRESISTANCE cRESPONSE cRITUAL cSEVERANCE cSINKING cSTOPPAGE cSTOVE cSTRENGTH cUNITY",
    "cVASTNESS_ dOR_ eWASTING cWAITING cWATCH cYOUTHFULNESS aTHAANA_ bAABAAFILI bABAFILI",
    "bEBEFILI bEEBEEFILI bEYBEYFILI bIBIFILI bLETTER_ cAINU cALIFU cBAA cCHAVIYANI cDAADHU",
    "cDAVIYANI cDHAALU cFAAFU cGAAFU cGHAINU cGNAVIYANI cHAA cHHAA cJAVIYANI cKAAFU cKHAA cLAAMU",
    "cLHAVIYANI cMEEMU cNAA cNOONU cPAVIYANI cQAAFU cRAA cSAADHU cSEENU cSHAVIYANI cSHEENU",
    "cTAVIYANI cTHAA cTHAALU cTO cTTAA cVAAVU cWAAVU cYAA cZAA cZAVIYANI cZO bOABOAFILI bOBOFILI",
    "bOOBOOFILI bSUKUN bUBUFILI aTHAI_ bCHARACTER_ cANGKHANKHU cBO_ dBAIMAI cCHO_ dCHAN dCHANG",
    "dCHING dCHOE cDO_ dCHADA dDEK cFONGMAN cFO_ dFA dFAN cHO_ dHIP dNOKHUK cKHOMUT cKHO_ dKHAI",
    "dKHON dKHUAT dKHWAI dRAKHANG cKO_ dKAI cLAKKHANGYAO cLO_ dCHULA dLING cLU cMAITAIKHU",
    "cMAIYAMOK cMAI_ dCHATTAWA dEK dHAN- eAKAT dTHO dTRI cMO_ dMA cNGO_ dNGU cNIKHAHIT cNO_ dNEN",
    "dNU cO_ dANG cPAIYANNOI cPHINTHU cPHO_ dPHAN dPHUNG dSAMPHAO cPO_ dPLA cRO_ dRUA cRU cSARA_",
    "dA dAA dAE dAI_ eMAIMALAI eMAIMUAN dAM dE dI dII dO dU dUE dUEE dUU cSO_ dRUSI dSALA dSO",
    "dSUA cTHANTHAKHAT cTHO_ dNANGMONTHO dPHUTHAO dTHAHAN dTHAN dTHONG dTHUNG cTO_ dPATAK dTAO",
    "cWO_ dWAEN cYAMAKKAN cYO_ dYAK dYING bCURRENCY_ cSYMBOL_ dBAHT bDIGIT_ cEIGHT cFIVE cFOUR",
    "cNINE cONE cSEVEN cSIX cTHREE cTWO cZERO aTHEREFORE aTHERE_ bDOES_ cNOT_ dEXIST bEXISTS",
    "aTHERMODYNAMIC aTHERMOMETER aTHINKING_ bFACE aTHIN_ bGREEK_ cCROSS bSALTIRE bSPACE aTHIRD_",
    "bPLACE_ cMEDAL aTHONG_ bSANDAL aTHOUGHT_ bBALLOON aTHREE- bD_ cBOTTOM- dLIGHTED_",
    "eRIGHTWARDS_ fARROWHEAD cLEFT- dLIGHTED_ eDOWNWARDS_ fEQUILATERAL_ gARROWHEAD cRIGHT-",
    "dLIGHTED_ eUPWARDS_ fEQUILATERAL_ gARROWHEAD cTOP- dLIGHTED_ eLEFTWARDS_ fEQUILATERAL_",
    "gARROWHEAD eRIGHTWARDS_ fARROWHEAD fEQUILATERAL_ gARROWHEAD bEM_ cDASH bPER- cEM_ dSPACE",
    "aTHREE_ bBUTTON_ cMOUSE bCONSECUTIVE_ cEQUALS_ dSIGNS bDIMENSIONAL_ cANGLE bDOT_",
    "cPUNCTUATION bLEFTWARDS_ cARROWS bLINES_ cCONVERGING_ dLEFT dRIGHT bNETWORKED_ cCOMPUTERS",
    "bPOINTED_ cBLACK_ dSTAR bRAYS_ cABOVE cBELOW cLEFT cRIGHT bRIGHTWARDS_ cARROWS bSPEECH_",
    "cBUBBLES aTHUMBS_ bDOWN_ cSIGN bUP_ cSIGN aTHUNDERSTORM aTHUNDER_ bCLOUD_ cAND_ dRAIN",
    "aTIBETAN_ bASTROLOGICAL_ cSIGN_ d- eKHYUD_ fPA dSDONG_ eTSHUGS dSGRA_ eGCAN_ f- gCHAR_",
    "hRTAGS bCANTILLATION_ cSIGN_ dCANG_ eTE- fU dHEAVY_ eBEAT dLIGHT_ eBEAT dSBUB_ e- fCHAL",
    "bDIGIT_ cEIGHT cFIVE cFOUR cHALF_ dEIGHT dFIVE dFOUR dNINE dONE dSEVEN dSIX dTHREE dTWO",
    "dZERO cNINE cONE cSEVEN cSIX cTHREE cTWO cZERO bKU_ cRU_ dKHA dKHA_ eBZHI_ fMIG_ gCAN",
    "bLETTER_ c- dA cA cBA cBHA cCA cCHA cDA cDDA cDDHA cDHA cDZA cDZHA cFIXED- dFORM_ eRA cGA",
    "cGHA cHA cJA cKA cKHA cKKA cKSSA cLA cMA cNA cNGA cNNA cNYA cPA cPHA cRA cRRA cSA cSHA cSSA",
    "cTA cTHA cTSA cTSHA cTTA cTTHA cWA cYA cZA cZHA bLOGOTYPE_ cSIGN_ dCHAD_ eRTAGS dLHAG_",
    "eRTAGS bMARK_ cANG_ dKHANG_ eGYAS eGYON cBKA- d_ eSHOG_ fGI_ gMGO_ hRGYAN fYIG_ gMGO",
    "cBSDUS_ dRTAGS cBSKA- d_ eSHOG_ fGI_ gMGO_ hRGYAN cBSKUR_ dYIG_ eMGO cCARET_ d- eDZUD_",
    "fRTAGS_ gBZHI_ hMIG_ iCAN gME_ hLONG_ iCAN dYIG_ eMGO_ fPHUR_ gSHAD_ hMA cCHE_ dMGO",
    "cCLOSING_ dBRDA_ eRNYING_ fYIG_ gMGO_ hSGAB_ iMA dYIG_ eMGO_ fSGAB_ gMA cDELIMITER_ dTSHEG_",
    "eBSTAR cGTER_ dTSHEG dYIG_ eMGO_ f- gUM_ hGTER_ iTSHEG_ jMA hRNAM_ iBCAD_ jMA fTRUNCATED_",
    "gA cGUG_ dRTAGS_ eGYAS eGYON cHALANTA cINITIAL_ dBRDA_ eRNYING_ fYIG_ gMGO_ hMDUN_ iMA",
    "dYIG_ eMGO_ fMDUN_ gMA cINTERSYLLABIC_ dTSHEG cLEADING_ dMCHAN_ eRTAGS cMNYAM_ dYIG_ eGI_",
    "fMGO_ gRGYAN cNGAS_ dBZUNG_ eNYI_ fZLA eSGOR_ fRTAGS cNYIS_ dSHAD dTSHEG dTSHEG_ eSHAD",
    "cPALUTA cRGYA_ dGRAM_ eSHAD cRIN_ dCHEN_ eSPUNGS_ fSHAD cSBRUL_ dSHAD cSHAD cTRAILING_",
    "dMCHAN_ eRTAGS cTSA_ d- ePHRU cTSHEG_ dSHAD cYIG_ dMGO_ eTSHEG_ fSHAD_ gMA bSIGN_ cGRU_",
    "dCAN_ eRGYINGS dMED_ eRGYINGS cINVERTED_ dMCHU_ eCAN cLCE_ dTSA_ eCAN cLCI_ dRTAGS cMAR_",
    "dTSHES cMCHU_ dCAN cNYI_ dZLA_ eNAA_ fDA cRDEL_ dDKAR_ eGCIG eGNYIS eGSUM eRDEL_ fNAG dNAG_",
    "eGCIG eGNYIS eGSUM eRDEL_ fDKAR cRJES_ dSU_ eNGA_ fRO cRNAM_ dBCAD cSNA_ dLDAN cYANG_",
    "dRTAGS cYAR_ dTSHES bSUBJOINED_ cLETTER_ d- eA dA dBA dBHA dCA dCHA dDA dDDA dDDHA dDHA",
    "dDZA dDZHA dFIXED- eFORM_ fRA fWA fYA dGA dGHA dHA dJA dKA dKHA dKSSA dLA dMA dNA dNGA dNNA",
    "dNYA dPA dPHA dRA dSA dSHA dSSA dTA dTHA dTSA dTSHA dTTA dTTHA dWA dYA dZA dZHA cSIGN_",
    "dINVERTED_ eMCHU_ fCAN dLCE_ eTSA_ fCAN dMCHU_ eCAN bSYLLABLE_ cOM bSYMBOL_ cDRIL_ dBU",
    "cNOR_ dBU dBU_ eBZHI_ f- gKHYIL eGSUM_ f- gKHYIL eNYIS_ f- gKHYIL cPADMA_ dGDAN cPHUR_ dPA",
    "cRDO_ dRJE dRJE_ eRGYA_ fGRAM bVOWEL_ cSIGN_ dAA dE dEE dI dII dO dOO dREVERSED_ eI eII dU",
    "dUU dVOCALIC_ eL eLL eR eRR aTICKET aTIE_ bOVER_ cINFINITY aTIFINAGH_ bCONSONANT_ cJOINER",
    "bLETTER_ cAHAGGAR_ dYAZH cAYER_ dYAGH cBERBER_ dACADEMY_ eYAH eYAJ cTAWELLEMET_ dYAZ",
    "cTUAREG_ dYAGH dYAGN dYAH dYAK dYAKH dYANG dYAQ dYAZH cYA cYAA cYAB cYABH cYACH cYAD cYADD",
    "cYADDH cYADH cYAF cYAG cYAGH cYAGHH cYAH cYAHH cYAJ cYAK cYAKH cYAKHH cYAL cYAM cYAN cYAP",
    "cYAQ cYAR cYARR cYAS cYASH cYASS cYAT cYATH cYATT cYAV cYAW cYAY cYAZ cYAZH cYAZZ cYE cYEY",
    "cYI cYO cYU bMODIFIER_ cLETTER_ dLABIALIZATION_ eMARK bSEPARATOR_ cMARK aTIGER aTIGER_",
    "bFACE aTIGHT_ bTRIFOLIATE_ cSNOWFLAKE aTILDE aTILDE_ bOPERATOR bOPERATOR_ cABOVE_",
    "dLEFTWARDS_ eARROW dRIGHTWARDS_ eARROW cWITH_ dDOT_ eABOVE dRISING_ eDOTS bWITH_ cDOT_",
    "dABOVE dBELOW cRING_ dABOVE aTIMER_ bCLOCK aTIMES_ bWITH_ cLEFT_ dHALF_ eBLACK cRIGHT_",
    "dHALF_ eBLACK aTINY aTINY_ bTWO_ cDOTS_ dOVER_ eONE_ fDOT_ gPUNCTUATION aTIRED_ bFACE",
    "aTIRHUTA_ bABBREVIATION_ cSIGN bANJI bDIGIT_ cEIGHT cFIVE cFOUR cNINE cONE cSEVEN cSIX",
    "cTHREE cTWO cZERO bGVANG bLETTER_ cA cAA cAI cAU cBA cBHA cCA cCHA cDA cDDA cDDHA cDHA cE",
    "cGA cGHA cHA cI cII cJA cJHA cKA cKHA cLA cMA cNA cNGA cNNA cNYA cO cPA cPHA cRA cSA cSHA",
    "cSSA cTA cTHA cTTA cTTHA cU cUU cVA cVOCALIC_ dL dLL dR dRR cYA bOM bSIGN_ cANUSVARA",
    "cAVAGRAHA cCANDRABINDU cNUKTA cVIRAMA cVISARGA bVOWEL_ cSIGN_ dAA dAI dAU dE dI dII dO",
    "dSHORT_ eE eO dU dUU dVOCALIC_ eL eLL eR eRR aTIRONIAN_ bSIGN_ cCAPITAL_ dET cET aTOILET",
    "aTOKYO_ bTOWER aTOMATO aTONGUE aTOOLBOX aTOOTH aTOOTHBRUSH aTOP_ bARC_ cANTICLOCKWISE_",
    "dARROW dARROW_ eWITH_ fPLUS cCLOCKWISE_ dARROW_ eWITH_ fMINUS bCURLY_ cBRACKET bHALF_",
    "cBLACK_ dCIRCLE cINTEGRAL cLEFT_ dPARENTHESIS cRIGHT_ dPARENTHESIS cSECTION_ dSIGN bHAT",
    "bLEFT_ cCORNER cCROP cHALF_ dBRACKET bPARENTHESIS bRIGHT_ cCORNER cCROP cHALF_ dBRACKET",
    "bSQUARE_ cBRACKET bTORTOISE_ cSHELL_ dBRACKET bWITH_ cUPWARDS_ dARROW_ eABOVE aTORTOISE_",
    "bSHELL_ cBRACKETED_ dCJK_ eUNIFIED_ fIDEOGRAPH- g4E09 g4E8C g52DD g5B89 g6253 g6557 g672C",
    "g70B9 g76D7 dLATIN_ eCAPITAL_ fLETTER_ gS aTOTAL_ bRUNOUT aTOTO_ bLETTER_ cA cAE cBA",
    "cBREATHY_ dAE dE dEO dI dIU cCHA cDA cE cEO cGA cHA cI cIU cJA cKA cLA cMA cNA cNGA cO cPA",
    "cRA cSA cTA cU cWA cYA bSIGN_ cRISING_ dTONE aTRACKBALL aTRACTOR aTRADE_ bMARK_ cSIGN",
    "aTRAIN aTRAM aTRAM_ bCAR aTRANSPLUTO aTRANSVERSAL_ bINTERSECTION aTRIANGLE- bHEADED_",
    "cRIGHTWARDS_ dARROW aTRIANGLE_ bWITH_ cDOT_ dABOVE cROUNDED_ dCORNERS cSERIFS_ dAT_ eBOTTOM",
    "cUNDERBAR aTRIANGULAR_ bBULLET bFLAG_ cON_ dPOST bRULER aTRICOLON aTRIDENT_ bEMBLEM",
    "aTRIGRAM_ bFOR_ cEARTH cFIRE cHEAVEN cLAKE cMOUNTAIN cTHUNDER cWATER cWIND aTRIPLE_ bCOLON_",
    "cOPERATOR bDAGGER bHORIZONTAL_ cBAR_ dWITH_ eDOUBLE_ fVERTICAL_ gSTROKE eTRIPLE_ fVERTICAL_",
    "gSTROKE bINTEGRAL bNESTED_ cGREATER- dTHAN cLESS- dTHAN bPLUS bPRIME bSOLIDUS_ cBINARY_",
    "dRELATION bTILDE bVERTICAL_ cBAR_ dBINARY_ eRELATION dDELIMITER dRIGHT_ eTURNSTILE dWITH_",
    "eHORIZONTAL_ fSTROKE aTROLL aTROLLEYBUS aTROPHY aTROPICAL_ bDRINK bFISH aTRUE aTRUE_",
    "bLIGHT_ cMOON_ dARTA aTRUMPET aTUGRIK_ bSIGN aTULIP aTUMBLER_ bGLASS aTURKEY aTURKISH_",
    "bLIRA_ cSIGN aTURNED_ bAMPERSAND bANGLE bBLACK_ cPENTAGON cSHOGI_ dPIECE bCAPITAL_ cF",
    "bCOMMA bDAGGER bDIGIT_ cTHREE cTWO bGREEK_ cSMALL_ dLETTER_ eIOTA bNORTH_ cEAST_ dPOINTING_",
    "eLEAF cWEST_ dPOINTING_ eLEAF bNOT_ cSIGN bOK_ cHAND_ dSIGN bSANS- cSERIF_ dCAPITAL_ eG eL",
    "eY bSEMICOLON bSMALL_ cF bSOUTH_ cEAST_ dPOINTING_ eLEAF cWEST_ dPOINTING_ eLEAF bWHITE_",
    "cSHOGI_ dPIECE aTURTLE aTWELVE_ bPOINTED_ cBLACK_ dSTAR aTWISTED_ bRIGHTWARDS_ cARROWS",
    "aTWO- bEM_ cDASH aTWO_ bASTERISKS_ cALIGNED_ dVERTICALLY bBUTTON_ cMOUSE bCONSECUTIVE_",
    "cEQUALS_ dSIGNS bDOTS_ cOVER_ dONE_ eDOT_ fPUNCTUATION bDOT_ cLEADER cPUNCTUATION bHEARTS",
    "bINTERSECTING_ cLOGICAL_ dAND dOR bJOINED_ cSQUARES bLOGICAL_ cAND_ dOPERATOR cOR_",
    "dOPERATOR bMEN_ cHOLDING_ dHANDS bSPEECH_ cBUBBLES bWOMEN_ cHOLDING_ dHANDS aUGARITIC_",
    "bLETTER_ cAIN cALPA cBETA cDELTA cDHAL cGAMLA cGHAIN cHO cHOTA cI cKAF cKHA cLAMDA cMEM",
    "cNUN cPU cQOPA cRASHA cSADE cSAMKA cSHIN cSSU cTET cTHANNA cTO cU cWO cYOD cZETA cZU bWORD_",
    "cDIVIDER aUMBRELLA aUMBRELLA_ bON_ cGROUND bWITH_ cRAIN_ dDROPS aUNAMUSED_ bFACE",
    "aUNCERTAINTY_ bSIGN aUNDERTIE aUNDO_ bSYMBOL aUNICORN_ bFACE aUNION aUNION_ bABOVE_ cBAR_",
    "dABOVE_ eINTERSECTION cINTERSECTION bBESIDE_ cAND_ dJOINED_ eWITH_ fUNION bWITH_ cLOGICAL_",
    "dOR cMINUS_ dSIGN cOVERBAR aUNITED_ bSYMBOL aUNIT_ bSEPARATOR aUNIVERSAL_ bRECYCLING_",
    "cSYMBOL aUNMARRIED_ bPARTNERSHIP_ cSYMBOL aUP- bPOINTING_ cAIRPLANE cMILITARY_ dAIRPLANE",
    "cRED_ dTRIANGLE cSMALL_ dAIRPLANE dRED_ eTRIANGLE cTRIANGLE_ dWITH_ eLEFT_ fHALF_ gBLACK",
    "eRIGHT_ fHALF_ gBLACK aUPPER_ bAND_ cLEFT_ dAND_ eLOWER_ fTRIANGULAR_ gTHREE_ hQUARTERS_",
    "iBLOCK cLOWER_ dONE_ eEIGHTH_ fBLOCK dTRIANGULAR_ eHALF_ fBLOCK cRIGHT_ dAND_ eLOWER_",
    "fTRIANGULAR_ gTHREE_ hQUARTERS_ iBLOCK bBLADE_ cSCISSORS bFIVE_ cEIGHTHS_ dBLOCK bHALF_",
    "cBLOCK cBLOCK_ dAND_ eLOWER_ fHALF_ gINVERSE_ hMEDIUM_ iSHADE cCIRCLE cINVERSE_ dMEDIUM_",
    "eSHADE_ fAND_ gLOWER_ hHALF_ iBLOCK dWHITE_ eCIRCLE cMEDIUM_ dSHADE bLEFT_ cBLOCK_",
    "dDIAGONAL_ eLOWER_ fCENTRE_ gTO_ hLOWER_ iMIDDLE_ jRIGHT hUPPER_ iMIDDLE_ jRIGHT iRIGHT",
    "fLEFT_ gTO_ hLOWER_ iMIDDLE_ jRIGHT hUPPER_ iCENTRE iMIDDLE_ jRIGHT fMIDDLE_ gLEFT_ hTO_",
    "iUPPER_ jCENTRE jMIDDLE_ kRIGHT jRIGHT eUPPER_ fMIDDLE_ gLEFT_ hTO_ iUPPER_ jCENTRE jRIGHT",
    "cCORNER_ dWITH_ eDOT cOR_ dLOWER_ eRIGHT_ fCURLY_ gBRACKET_ hSECTION cQUADRANT_ dCIRCULAR_",
    "eARC cTO_ dLOWER_ eRIGHT_ fFILL cTRIANGLE cTRIANGULAR_ dMEDIUM_ eSHADE bONE_ cEIGHTH_",
    "dBLOCK cQUARTER_ dBLOCK bRIGHT_ cBLOCK_ dDIAGONAL_ eLOWER_ fMIDDLE_ gLEFT_ hTO_ iLOWER_",
    "jCENTRE jRIGHT eUPPER_ fCENTRE_ gTO_ hLOWER_ iMIDDLE_ jRIGHT iRIGHT hUPPER_ iMIDDLE_ jRIGHT",
    "fLEFT_ gTO_ hLOWER_ iCENTRE iMIDDLE_ jRIGHT hUPPER_ iMIDDLE_ jRIGHT fMIDDLE_ gLEFT_ hTO_",
    "iLOWER_ jCENTRE jMIDDLE_ kRIGHT jRIGHT cDROP- dSHADOWED_ eWHITE_ fSQUARE cOR_ dLOWER_",
    "eLEFT_ fCURLY_ gBRACKET_ hSECTION cPENCIL cQUADRANT_ dCIRCULAR_ eARC cSHADOWED_ dWHITE_",
    "eCIRCLE eSQUARE cTO_ dLOWER_ eLEFT_ fFILL cTRIANGLE cTRIANGULAR_ dMEDIUM_ eSHADE bSEVEN_",
    "cEIGHTHS_ dBLOCK bTHREE_ cEIGHTHS_ dBLOCK cQUARTERS_ dBLOCK bTRIANGULAR_ cONE_ dQUARTER_",
    "eBLOCK aUPSIDE- bDOWN_ cFACE aUPWARDS_ bANCORA bARROW bARROW_ cAND_ dRIGHT_ eONE_ fEIGHTH_",
    "gBLOCK cFROM_ dBAR cLEFTWARDS_ dOF_ eDOWNWARDS_ fARROW cTO_ dBAR cWITH_ dDOUBLE_ eSTROKE",
    "dEQUILATERAL_ eARROWHEAD dHORIZONTAL_ eSTROKE dLARGE_ eTRIANGLE_ fARROWHEAD dMEDIUM_",
    "eTRIANGLE_ fARROWHEAD dNOTCHED_ eTAIL dSMALL_ eEQUILATERAL_ fARROWHEAD eTRIANGLE_",
    "fARROWHEAD dTIP_ eLEFTWARDS eRIGHTWARDS bBLACK_ cARROW cCIRCLED_ dWHITE_ eARROW",
    "bCOMPRESSED_ cARROW bDASHED_ cARROW bDOUBLE_ cARROW bFINGER- cPOST_ dARROW bHARPOON_ cWITH_",
    "dBARB_ eLEFTWARDS eLEFT_ fBESIDE_ gDOWNWARDS_ hHARPOON_ iWITH_ jBARB_ kRIGHT gUPWARDS_",
    "hHARPOON_ iWITH_ jBARB_ kRIGHT fFROM_ gBAR fTO_ gBAR eRIGHTWARDS eRIGHT_ fFROM_ gBAR fTO_",
    "gBAR bHEAVY_ cARROW cCOMPRESSED_ dARROW bPAIRED_ cARROWS bQUADRUPLE_ cARROW bROCKET bSANS-",
    "cSERIF_ dARROW bSQUARED_ cARROW bTRIANGLE- cHEADED_ dARROW dARROW_ eLEFTWARDS_ fOF_",
    "gDOWNWARDS_ hTRIANGLE- iHEADED_ jARROW eTO_ fBAR eWITH_ fBOLD_ gSHAFT fDOUBLE_ gHORIZONTAL_",
    "hSTROKE fHEAVY_ gSHAFT fLONG_ gTIP_ hLEFTWARDS hRIGHTWARDS fMEDIUM_ gSHAFT fNARROW_ gSHAFT",
    "fVERY_ gHEAVY_ hSHAFT dDASHED_ eARROW dPAIRED_ eARROWS bTRIANGLE_ cARROWHEAD bTRIPLE_",
    "cARROW bTWO- cHEADED_ dARROW_ eFROM_ fSMALL_ gCIRCLE eWITH_ fTRIANGLE_ gARROWHEADS bTWO_",
    "cHEADED_ dARROW bWHITE_ cARROW cARROW_ dFROM_ eBAR eBAR_ fWITH_ gHORIZONTAL_ hBAR dON_",
    "ePEDESTAL ePEDESTAL_ fWITH_ gHORIZONTAL_ hBAR gVERTICAL_ hBAR dWITHIN_ eTRIANGLE_",
    "fARROWHEAD cDOUBLE_ dARROW dARROW_ eON_ fPEDESTAL aUP_ bARROWHEAD bARROWHEAD_ cBETWEEN_",
    "dTWO_ eHORIZONTAL_ fBARS cIN_ dA_ eRECTANGLE_ fBOX bARROW_ cTHROUGH_ dCIRCLE bBARB_ cLEFT_",
    "dDOWN_ eBARB_ fLEFT_ gHARPOON fRIGHT_ gHARPOON cRIGHT_ dDOWN_ eBARB_ fLEFT_ gHARPOON",
    "fRIGHT_ gHARPOON bDOWN_ cARROW cARROW_ dWITH_ eBASE cBLACK_ dARROW cDOUBLE_ dARROW cSANS-",
    "dSERIF_ eARROW cTRIANGLE- dHEADED_ eARROW cWHITE_ dARROW bFISH_ cTAIL bRIGHT_ cDIAGONAL_",
    "dELLIPSIS bTACK bTACK_ cWITH_ dCIRCLE_ eABOVE aURANUS aUS aVAI_ bCOMMA bDIGIT_ cEIGHT cFIVE",
    "cFOUR cNINE cONE cSEVEN cSIX cTHREE cTWO cZERO bFULL_ cSTOP bQUESTION_ cMARK bSYLLABLE_ cA",
    "cAN cBA cBE cBEE cBHA cBHE cBHEE cBHI cBHO cBHOO cBHU cBI cBO cBOO cBU cCA cCE cCEE cCI cCO",
    "cCOO cCU cDA cDE cDEE cDHA cDHE cDHEE cDHHA cDHHE cDHHEE cDHHI cDHHO cDHHOO cDHHU cDHI cDHO",
    "cDHOO cDHU cDI cDO cDOO cDU cE cEE cEEN cEN cFA cFE cFEE cFI cFO cFOO cFU cGA cGBA cGBE",
    "cGBEE cGBEN cGBI cGBO cGBON cGBOO cGBU cGE cGEE cGEN cGI cGO cGOO cGU cHA cHAN cHE cHEE",
    "cHEN cHI cHIN cHO cHON cHOO cHU cHUN cI cIN cJA cJE cJEE cJI cJO cJOO cJU cKA cKAN cKE cKEE",
    "cKI cKO cKOO cKPA cKPAN cKPE cKPEE cKPEN cKPI cKPO cKPOO cKPU cKU cLA cLE cLEE cLENGTHENER",
    "cLI cLO cLOO cLU cMA cMBA cMBE cMBEE cMBI cMBO cMBOO cMBU cME cMEE cMGBA cMGBE cMGBEE cMGBI",
    "cMGBO cMGBOO cMGBU cMI cMO cMOO cMU cNA cNDA cNDE cNDEE cNDI cNDO cNDOLE_ dDO dFA dKA dMA",
    "dSOO cNDOO cNDU cNE cNEE cNG cNGAN cNGEN cNGGA cNGGE cNGGEE cNGGEN cNGGI cNGGO cNGGOO cNGGU",
    "cNGON cNI cNJA cNJE cNJEE cNJI cNJO cNJOO cNJU cNO cNOO cNU cNYA cNYE cNYEE cNYI cNYO cNYOO",
    "cNYU cO cON cOO cOON cPA cPE cPEE cPI cPO cPOO cPU cRA cRE cREE cRI cRO cROO cRU cSA cSE",
    "cSEE cSHA cSHE cSHEE cSHI cSHO cSHOO cSHU cSI cSO cSOO cSU cTA cTE cTEE cTHA cTHE cTHEE",
    "cTHI cTHO cTHOO cTHU cTI cTO cTOO cTU cU cUN cVA cVE cVEE cVI cVO cVOO cVU cWA cWAN cWE",
    "cWEE cWEEN cWEN cWI cWIN cWO cWON cWOO cWOON cWU cWUN cYA cYE cYEE cYI cYO cYOO cYU cZA cZE",
    "cZEE cZHA cZHE cZHEE cZHI cZHO cZHOO cZHU cZI cZO cZOO cZU bSYMBOL_ cBANG cDANG cDO- dO",
    "cDOONG cFAA cFEENG cJONG cKEENG cKUNG cNII cTAA cTING cTONG aVAMPIRE aVARIATION_ bSELECTOR-",
    "c1 c10 c100 c101 c102 c103 c104 c105 c106 c107 c108 c109 c11 c110 c111 c112 c113 c114 c115",
    "c116 c117 c118 c119 c12 c120 c121 c122 c123 c124 c125 c126 c127 c128 c129 c13 c130 c131",
    "c132 c133 c134 c135 c136 c137 c138 c139 c14 c140 c141 c142 c143 c144 c145 c146 c147 c148",
    "c149 c15 c150 c151 c152 c153 c154 c155 c156 c157 c158 c159 c16 c160 c161 c162 c163 c164",
    "c165 c166 c167 c168 c169 c17 c170 c171 c172 c173 c174 c175 c176 c177 c178 c179 c18 c180",
    "c181 c182 c183 c184 c185 c186 c187 c188 c189 c19 c190 c191 c192 c193 c194 c195 c196 c197",
    "c198 c199 c2 c20 c200 c201 c202 c203 c204 c205 c206 c207 c208 c209 c21 c210 c211 c212 c213",
    "c214 c215 c216 c217 c218 c219 c22 c220 c221 c222 c223 c224 c225 c226 c227 c228 c229 c23",
    "c230 c231 c232 c233 c234 c235 c236 c237 c238 c239 c24 c240 c241 c242 c243 c244 c245 c246",
    "c247 c248 c249 c25 c250 c251 c252 c253 c254 c255 c256 c26 c27 c28 c29 c3 c30 c31 c32 c33",
    "c34 c35 c36 c37 c38 c39 c4 c40 c41 c42 c43 c44 c45 c46 c47 c48 c49 c5 c50 c51 c52 c53 c54",
    "c55 c56 c57 c58 c59 c6 c60 c61 c62 c63 c64 c65 c66 c67 c68 c69 c7 c70 c71 c72 c73 c74 c75",
    "c76 c77 c78 c79 c8 c80 c81 c82 c83 c84 c85 c86 c87 c88 c89 c9 c90 c91 c92 c93 c94 c95 c96",
    "c97 c98 c99 aVECTOR_ bOR_ cCROSS_ dPRODUCT aVEDIC_ bSIGN_ cANUSVARA_ dANTARGOMUKHA",
    "dBAHIRGOMUKHA dUBHAYATO_ eMUKHA dVAMAGOMUKHA dVAMAGOMUKHA_ eWITH_ fTAIL cARDHAVISARGA",
    "cATIKRAMA cDOUBLE_ dANUSVARA_ eANTARGOMUKHA cHEXIFORM_ dLONG_ eANUSVARA cJIHVAMULIYA cLONG_",
    "dANUSVARA cNIHSHVASA cREVERSED_ dVISARGA_ eANUDATTA eUDATTA cROTATED_ dARDHAVISARGA",
    "cRTHANG_ dLONG_ eANUSVARA cTIRYAK cUPADHMANIYA cVISARGA_ dANUDATTA dANUDATTA_ eWITH_ fTAIL",
    "dSVARITA dUDATTA dUDATTA_ eWITH_ fTAIL cYAJURVEDIC_ dMIDLINE_ eSVARITA bTONE_",
    "cATHARVAVEDIC_ dINDEPENDENT_ eSVARITA cCANDRA_ dABOVE dBELOW cDOT_ dBELOW cDOUBLE_ dRING_",
    "eABOVE dSVARITA cKARSHANA cKATHAKA_ dANUDATTA cPRENKHA cRIGVEDIC_ dKASHMIRI_ eINDEPENDENT_",
    "fSVARITA cRING_ dABOVE cSHARA cTHREE_ dDOTS_ eBELOW cTRIPLE_ dSVARITA cTWO_ dDOTS_ eBELOW",
    "cYAJURVEDIC_ dAGGRAVATED_ eINDEPENDENT_ fSVARITA dINDEPENDENT_ eSVARITA dKATHAKA_",
    "eINDEPENDENT_ fSVARITA fSVARITA_ gSCHROEDER aVERSICLE aVERTICAL_ bBAR_ cBESIDE_ dRIGHT_",
    "eTRIANGLE cDOUBLE_ dLEFT_ eTURNSTILE cTRIPLE_ dRIGHT_ eTURNSTILE cWITH_ dHORIZONTAL_",
    "eSTROKE bELLIPSIS bFOUR_ cDOTS bIDEOGRAPHIC_ cITERATION_ dMARK bKANA_ cREPEAT_ dMARK dMARK_",
    "eLOWER_ fHALF eUPPER_ fHALF dWITH_ eVOICED_ fSOUND_ gMARK gMARK_ hUPPER_ iHALF bLINE bLINE_",
    "cEXTENSION cWITH_ dCIRCLE_ eABOVE eBELOW dMIDDLE_ eDOT bMALE_ cWITH_ dSTROKE_ eSIGN bONE_",
    "cEIGHTH_ dBLOCK- e2 e3 e4 e5 e6 e7 bSIX_ cDOTS bTABULATION bTABULATION_ cSET bTAB_ cKEY",
    "bTILDE bTRAFFIC_ cLIGHT bZIGZAG_ cLINE aVERY_ bBOLD_ cGREEK_ dCROSS bHEAVY_ cEIGHT_",
    "dPOINTED_ eBLACK_ fSTAR dSPOKED_ eASTERISK cFIVE_ dSPOKED_ eASTERISK cGREEK_ dCROSS",
    "cREVERSE_ dSOLIDUS cSALTIRE cSIX_ dSPOKED_ eASTERISK cSOLIDUS cWHITE_ dCIRCLE dSQUARE",
    "bMUCH_ cGREATER- dTHAN cLESS- dTHAN aVESTA aVIBRATION_ bMODE aVICTORY_ bHAND aVIDEOCASSETTE",
    "aVIDEO_ bCAMERA bGAME aVIETNAMESE_ bALTERNATE_ cREADING_ dMARK_ eCA eNHAY aVIEWDATA_",
    "bSQUARE aVIOLIN aVIRGO aVITHKUQI_ bCAPITAL_ cLETTER_ dA dBBE dBE dCE dCHE dDE dDHE dE dEI",
    "dFE dGA dHA dHHA dI dIJE dJE dKA dLA dLLA dME dNE dNJE dO dPE dQA dRE dSE dSHE dTE dTHE dU",
    "dVE dXE dY dZE bSMALL_ cLETTER_ dA dBBE dBE dCE dCHE dDE dDHE dE dEI dFE dGA dHA dHHA dI",
    "dIJE dJE dKA dLA dLLA dME dNE dNJE dO dPE dQA dRE dSE dSHE dTE dTHE dU dVE dXE dY dZE",
    "aVOIDED_ bGREEK_ cCROSS aVOLCANO aVOLLEYBALL aVOLUME_ bINTEGRAL aVS1 aVS10 aVS100 aVS101",
    "aVS102 aVS103 aVS104 aVS105 aVS106 aVS107 aVS108 aVS109 aVS11 aVS110 aVS111 aVS112 aVS113",
    "aVS114 aVS115 aVS116 aVS117 aVS118 aVS119 aVS12 aVS120 aVS121 aVS122 aVS123 aVS124 aVS125",
    "aVS126 aVS127 aVS128 aVS129 aVS13 aVS130 aVS131 aVS132 aVS133 aVS134 aVS135 aVS136 aVS137",
    "aVS138 aVS139 aVS14 aVS140 aVS141 aVS142 aVS143 aVS144 aVS145 aVS146 aVS147 aVS148 aVS149",
    "aVS15 aVS150 aVS151 aVS152 aVS153 aVS154 aVS155 aVS156 aVS157 aVS158 aVS159 aVS16 aVS160",
    "aVS161 aVS162 aVS163 aVS164 aVS165 aVS166 aVS167 aVS168 aVS169 aVS17 aVS170 aVS171 aVS172",
    "aVS173 aVS174 aVS175 aVS176 aVS177 aVS178 aVS179 aVS18 aVS180 aVS181 aVS182 aVS183 aVS184",
    "aVS185 aVS186 aVS187 aVS188 aVS189 aVS19 aVS190 aVS191 aVS192 aVS193 aVS194 aVS195 aVS196",
    "aVS197 aVS198 aVS199 aVS2 aVS20 aVS200 aVS201 aVS202 aVS203 aVS204 aVS205 aVS206 aVS207",
    "aVS208 aVS209 aVS21 aVS210 aVS211 aVS212 aVS213 aVS214 aVS215 aVS216 aVS217 aVS218 aVS219",
    "aVS22 aVS220 aVS221 aVS222 aVS223 aVS224 aVS225 aVS226 aVS227 aVS228 aVS229 aVS23 aVS230",
    "aVS231 aVS232 aVS233 aVS234 aVS235 aVS236 aVS237 aVS238 aVS239 aVS24 aVS240 aVS241 aVS242",
    "aVS243 aVS244 aVS245 aVS246 aVS247 aVS248 aVS249 aVS25 aVS250 aVS251 aVS252 aVS253 aVS254",
    "aVS255 aVS256 aVS26 aVS27 aVS28 aVS29 aVS3 aVS30 aVS31 aVS32 aVS33 aVS34 aVS35 aVS36 aVS37",
    "aVS38 aVS39 aVS4 aVS40 aVS41 aVS42 aVS43 aVS44 aVS45 aVS46 aVS47 aVS48 aVS49 aVS5 aVS50",
    "aVS51 aVS52 aVS53 aVS54 aVS55 aVS56 aVS57 aVS58 aVS59 aVS6 aVS60 aVS61 aVS62 aVS63 aVS64",
    "aVS65 aVS66 aVS67 aVS68 aVS69 aVS7 aVS70 aVS71 aVS72 aVS73 aVS74 aVS75 aVS76 aVS77 aVS78",
    "aVS79 aVS8 aVS80 aVS81 aVS82 aVS83 aVS84 aVS85 aVS86 aVS87 aVS88 aVS89 aVS9 aVS90 aVS91",
    "aVS92 aVS93 aVS94 aVS95 aVS96 aVS97 aVS98 aVS99 aVT aVTS aVULCANUS aVULGAR_ bFRACTION_",
    "cFIVE_ dEIGHTHS dSIXTHS cFOUR_ dFIFTHS cONE_ dEIGHTH dFIFTH dHALF dNINTH dQUARTER dSEVENTH",
    "dSIXTH dTENTH dTHIRD cSEVEN_ dEIGHTHS cTHREE_ dEIGHTHS dFIFTHS dQUARTERS cTWO_ dFIFTHS",
    "dTHIRDS cZERO_ dTHIRDS aWAFFLE aWANCHO_ bDIGIT_ cEIGHT cFIVE cFOUR cNINE cONE cSEVEN cSIX",
    "cTHREE cTWO cZERO bLETTER_ cA cAA cAAN cAANG cANG cAU cBA cCA cDA cE cEN cFA cGA cHA cI",
    "cING cJA cKA cKHA cLA cLLHA cMA cNA cNGA cNYA cO cON cONG cPA cPHA cRA cSA cSHA cTA cTHA",
    "cTRA cTSA cU cUEN cVA cWA cYA cYIH cZA bNGUN_ cSIGN bTONE_ cKOI cKOINI cTUP cTUPNI aWANING_",
    "bCRESCENT_ cMOON_ dSYMBOL bGIBBOUS_ cMOON_ dSYMBOL aWARANG_ bCITI_ cCAPITAL_ dLETTER_ eA",
    "eAM eANG eAT eBU eDA eE eENN eENY eGA eHAR eHIYO eHOLO eHORR eII eKO eNGAA eNUNG eO eODD",
    "ePU eSII eSSUU eTTE eUC eUU eVIYO eWI eYA eYO eYU eYUJ cDIGIT_ dEIGHT dFIVE dFOUR dNINE",
    "dONE dSEVEN dSIX dTHREE dTWO dZERO cNUMBER_ dEIGHTY dFIFTY dFORTY dNINETY dSEVENTY dSIXTY",
    "dTEN dTHIRTY dTWENTY cOM cSMALL_ dLETTER_ eA eAM eANG eAT eBU eDA eE eENN eENY eGA eHAR",
    "eHIYO eHOLO eHORR eII eKO eNGAA eNUNG eO eODD ePU eSII eSSUU eTTE eUC eUU eVIYO eWI eYA eYO",
    "eYU eYUJ aWARNING_ bSIGN aWASTEBASKET aWATCH aWATERMELON aWATER_ bBUFFALO bCLOSET bPOLO",
    "bWAVE aWAVE_ bARROW_ cPOINTING_ dDIRECTLY_ eLEFT eRIGHT bDASH aWAVING_ bBLACK_ cFLAG bHAND_",
    "cSIGN bWHITE_ cFLAG aWAVY_ bDASH bLINE bLOW_ cLINE bOVERLINE aWAXING_ bCRESCENT_ cMOON_",
    "dSYMBOL bGIBBOUS_ cMOON_ dSYMBOL aWEARY_ bCAT_ cFACE bFACE aWEDDING aWEDGE- bTAILED_",
    "cRIGHTWARDS_ dARROW aWEIERSTRASS_ bELLIPTIC_ cFUNCTION aWEIGHT_ bLIFTER aWEST_ bSYRIAC_",
    "cCROSS aWHALE aWHEEL aWHEELCHAIR_ bSYMBOL aWHEEL_ bOF_ cDHARMA aWHITE- bFEATHERED_",
    "cRIGHTWARDS_ dARROW aWHITE_ bARROW_ cSHAFT_ dWIDTH_ eONE eTWO_ fTHIRDS bBULLET bCHESS_",
    "cBISHOP cBISHOP_ dROTATED_ eNINETY_ fDEGREES eTWO_ fHUNDRED_ gSEVENTY_ hDEGREES cEQUIHOPPER",
    "cEQUIHOPPER_ dROTATED_ eNINETY_ fDEGREES cKING cKING_ dROTATED_ eNINETY_ fDEGREES eTWO_",
    "fHUNDRED_ gSEVENTY_ hDEGREES cKNIGHT cKNIGHT- dBISHOP dQUEEN dROOK cKNIGHT_ dROTATED_",
    "eFORTY- fFIVE_ gDEGREES eNINETY_ fDEGREES eONE_ fHUNDRED_ gTHIRTY- hFIVE_ iDEGREES eTHREE_",
    "fHUNDRED_ gFIFTEEN_ hDEGREES eTWO_ fHUNDRED_ gSEVENTY_ hDEGREES gTWENTY- hFIVE_ iDEGREES",
    "cPAWN cPAWN_ dROTATED_ eNINETY_ fDEGREES eTWO_ fHUNDRED_ gSEVENTY_ hDEGREES cQUEEN cQUEEN_",
    "dROTATED_ eNINETY_ fDEGREES eTWO_ fHUNDRED_ gSEVENTY_ hDEGREES cROOK cROOK_ dROTATED_",
    "eNINETY_ fDEGREES eTWO_ fHUNDRED_ gSEVENTY_ hDEGREES cTURNED_ dBISHOP dKING dKNIGHT dPAWN",
    "dQUEEN dROOK bCIRCLE bCIRCLE_ cCONTAINING_ dBLACK_ eSMALL_ fCIRCLE cWITH_ dDOT_ eRIGHT",
    "dDOWN_ eARROW dLOWER_ eLEFT_ fQUADRANT eRIGHT_ fQUADRANT dTWO_ eDOTS dUPPER_ eLEFT_",
    "fQUADRANT eRIGHT_ fQUADRANT bCLUB_ cSUIT bCONCAVE- cSIDED_ dDIAMOND dDIAMOND_ eWITH_",
    "fLEFTWARDS_ gTICK fRIGHTWARDS_ gTICK bDIAMOND bDIAMOND_ cCONTAINING_ dBLACK_ eMEDIUM_",
    "fDIAMOND eSMALL_ fDIAMOND eVERY_ fSMALL_ gDIAMOND cIN_ dSQUARE cSUIT cWITH_ dCENTRED_ eDOT",
    "bDOWN- cPOINTING_ dSMALL_ eTRIANGLE dTRIANGLE bDOWN_ cPOINTING_ dBACKHAND_ eINDEX dINDEX",
    "dLEFT_ eHAND_ fINDEX bDRAUGHTS_ cKING cMAN bEXCLAMATION_ cMARK_ dORNAMENT bFLAG bFLAG_",
    "cWITH_ dHORIZONTAL_ eMIDDLE_ fBLACK_ gSTRIPE bFLORETTE bFLOWER bFOUR_ cPOINTED_ dCUSP dSTAR",
    "bFROWNING_ cFACE bHARD_ cSHELL_ dFLOPPY_ eDISK bHEART bHEART_ cSUIT bHEAVY_ cCHECK_ dMARK",
    "cSALTIRE_ dWITH_ eROUNDED_ fCORNERS bHEXAGON bHORIZONTAL_ cELLIPSE bHOURGLASS bLARGE_",
    "cSQUARE bLATIN_ cCROSS bLEFT- cPOINTING_ dPOINTER dSMALL_ eTRIANGLE dTRIANGLE bLEFT_ cLANE_",
    "dMERGE cPOINTING_ dBACKHAND_ eINDEX dINDEX bLOZENGE_ cCONTAINING_ dBLACK_ eSMALL_ fLOZENGE",
    "bMEDIUM_ cDIAMOND cLOZENGE cSMALL_ dSQUARE cSQUARE cSTAR bMOON_ cSELENA bNIB bPARALLELOGRAM",
    "bPENNANT bPENTAGON bQUESTION_ cMARK_ dORNAMENT bRECTANGLE bRIGHT- cPOINTING_ dPENTAGON",
    "dPOINTER dSMALL_ eTRIANGLE dTRIANGLE bRIGHT_ cPOINTING_ dBACKHAND_ eINDEX dINDEX bSCISSORS",
    "bSESAME_ cDOT bSHOGI_ cPIECE bSMALL_ cLOZENGE cSQUARE cSTAR bSMILING_ cFACE bSPADE_ cSUIT",
    "bSQUARE bSQUARE_ cBUTTON cCONTAINING_ dBLACK_ eMEDIUM_ fSQUARE eSMALL_ fSQUARE eVERY_",
    "fSMALL_ gSQUARE cWITH_ dCENTRE_ eVERTICAL_ fLINE dLEFTWARDS_ eTICK dLOWER_ eLEFT_ fQUADRANT",
    "eRIGHT_ fQUADRANT dRIGHTWARDS_ eTICK dROUNDED_ eCORNERS dUPPER_ eLEFT_ fQUADRANT eRIGHT_",
    "fQUADRANT dVERTICAL_ eBISECTING_ fLINE bSTAR bSUN bSUN_ cBEHIND_ dCLOUD dCLOUD_ eWITH_",
    "fRAIN cWITH_ dRAYS dSMALL_ eCLOUD bTELEPHONE bTOUCHTONE_ cTELEPHONE bTRAPEZIUM bTRIANGLE_",
    "cCONTAINING_ dSMALL_ eWHITE_ fTRIANGLE bTWO- cWAY_ dLEFT_ eWAY_ fTRAFFIC bUP- cPOINTING_",
    "dCHEVRON dSMALL_ eTRIANGLE dTRIANGLE dTRIANGLE_ eWITH_ fDOT bUP_ cPOINTING_ dBACKHAND_",
    "eINDEX dINDEX bVERTICAL_ cBAR cELLIPSE cRECTANGLE bVERY_ cSMALL_ dSQUARE aWIDE- bHEADED_",
    "cDOWNWARDS_ dBARB_ eARROW dHEAVY_ eBARB_ fARROW dLIGHT_ eBARB_ fARROW dMEDIUM_ eBARB_",
    "fARROW dVERY_ eHEAVY_ fBARB_ gARROW cLEFTWARDS_ dBARB_ eARROW dHEAVY_ eBARB_ fARROW dLIGHT_",
    "eBARB_ fARROW dMEDIUM_ eBARB_ fARROW dVERY_ eHEAVY_ fBARB_ gARROW cNORTH_ dEAST_ eBARB_",
    "fARROW eHEAVY_ fBARB_ gARROW eLIGHT_ fBARB_ gARROW eMEDIUM_ fBARB_ gARROW eVERY_ fHEAVY_",
    "gBARB_ hARROW dWEST_ eBARB_ fARROW eHEAVY_ fBARB_ gARROW eLIGHT_ fBARB_ gARROW eMEDIUM_",
    "fBARB_ gARROW eVERY_ fHEAVY_ gBARB_ hARROW cRIGHTWARDS_ dBARB_ eARROW dHEAVY_ eBARB_ fARROW",
    "dLIGHT_ eBARB_ fARROW dMEDIUM_ eBARB_ fARROW dVERY_ eHEAVY_ fBARB_ gARROW cSOUTH_ dEAST_",
    "eBARB_ fARROW eHEAVY_ fBARB_ gARROW eLIGHT_ fBARB_ gARROW eMEDIUM_ fBARB_ gARROW eVERY_",
    "fHEAVY_ gBARB_ hARROW dWEST_ eBARB_ fARROW eHEAVY_ fBARB_ gARROW eLIGHT_ fBARB_ gARROW",
    "eMEDIUM_ fBARB_ gARROW eVERY_ fHEAVY_ gBARB_ hARROW cUPWARDS_ dBARB_ eARROW dHEAVY_ eBARB_",
    "fARROW dLIGHT_ eBARB_ fARROW dMEDIUM_ eBARB_ fARROW dVERY_ eHEAVY_ fBARB_ gARROW aWIGGLY_",
    "bVERTICAL_ cLINE aWILTED_ bFLOWER aWINDOW aWIND_ bBLOWING_ cFACE bCHIME aWINE_ bGLASS",
    "aWINKING_ bFACE aWIRED_ bKEYBOARD aWJ aWOLF_ bFACE aWOMAN aWOMANS_ bBOOTS bCLOTHES bHAT",
    "bSANDAL aWOMAN_ bWITH_ cBUNNY_ dEARS aWOMENS_ bSYMBOL aWON_ bSIGN aWOOD aWORD_ bJOINER",
    "bSEPARATOR_ cMIDDLE_ dDOT aWORLD_ bMAP aWORM aWORRIED_ bFACE aWRAPPED_ bPRESENT aWREATH_",
    "bPRODUCT aWRENCH aWRESTLERS aWRITING_ bHAND aX- bRAY aXIANGQI_ bBLACK_ cCANNON cCHARIOT",
    "cELEPHANT cGENERAL cHORSE cMANDARIN cSOLDIER bRED_ cCANNON cCHARIOT cELEPHANT cGENERAL",
    "cHORSE cMANDARIN cSOLDIER aXOR aX_ bIN_ cA_ dRECTANGLE_ eBOX aYAWNING_ bFACE aYELLOW_",
    "bHEART aYEN_ bSIGN aYEZIDI_ bCOMBINING_ cHAMZA_ dMARK cMADDA_ dMARK bHYPHENATION_ cMARK",
    "bLETTER_ cBE cCHHIM cCHIM cCIM cDAD cDAL cELIF cET cEW cEYN cFA cGAF cHAY cHHA cJA cKAF",
    "cKHAF cLAM cLAM_ dWITH_ eDOT_ fABOVE cMIM cNUN cOW cPE cPHE cQAF cRA cRHA cSAD cSE cSHIN",
    "cSIN cTA cTHE cUM cVA cVA_ dALTERNATE_ eFORM cWAW cXA cXHEYN cYOT cYOT_ dWITH_ eCIRCUMFLEX_",
    "fABOVE cZA cZAL cZE aYIN_ bYANG aYI_ bRADICAL_ cBBUT cBUR cCHE cCIP cCUOP cCY cCYP cCYT",
    "cDDUR cDU cGA cGEP cGGOP cGGUO cGOT cHMO cHXIT cHXOP cHXUO cJJIE cJJUT cJJY cJO cKE cKIT",
    "cLI cLIE cLYR cMI cMOP cNBIE cNYIP cNYOP cNZUP cOP cPUT cPYT cQOT cSHAT cSHOP cSHUR cSHY",
    "cSSI cTAT cTU cVEP cVUR cWO cYIT cYO cZA cZOT cZUP cZUR cZZIET bSYLLABLE_ cA cAP cAT cAX",
    "cBA cBAP cBAT cBAX cBBA cBBAP cBBAT cBBAX cBBE cBBEP cBBEX cBBI cBBIE cBBIEP cBBIET cBBIEX",
    "cBBIP cBBIT cBBIX cBBO cBBOP cBBOT cBBOX cBBU cBBUO cBBUOP cBBUOX cBBUP cBBUR cBBURX cBBUT",
    "cBBUX cBBY cBBYP cBBYT cBBYX cBE cBEP cBEX cBI cBIE cBIEP cBIET cBIEX cBIP cBIT cBIX cBO",
    "cBOP cBOT cBOX cBU cBUO cBUOP cBUOX cBUP cBUR cBURX cBUT cBUX cBY cBYP cBYR cBYRX cBYT cBYX",
    "cCA cCAP cCAT cCAX cCE cCEP cCEX cCHA cCHAP cCHAT cCHAX cCHE cCHEP cCHET cCHEX cCHO cCHOP",
    "cCHOT cCHOX cCHU cCHUO cCHUOP cCHUOT cCHUOX cCHUP cCHUR cCHURX cCHUX cCHY cCHYP cCHYR",
    "cCHYRX cCHYT cCHYX cCI cCIE cCIEP cCIET cCIEX cCIP cCIT cCIX cCO cCOP cCOT cCOX cCU cCUO",
    "cCUOP cCUOX cCUP cCUR cCURX cCUT cCUX cCY cCYP cCYR cCYRX cCYT cCYX cDA cDAP cDAT cDAX cDDA",
    "cDDAP cDDAT cDDAX cDDE cDDEP cDDEX cDDI cDDIE cDDIEP cDDIEX cDDIP cDDIT cDDIX cDDO cDDOP",
    "cDDOT cDDOX cDDU cDDUO cDDUOP cDDUOX cDDUP cDDUR cDDURX cDDUT cDDUX cDE cDEP cDEX cDI cDIE",
    "cDIEP cDIEX cDIP cDIT cDIX cDO cDOP cDOT cDOX cDU cDUO cDUOX cDUP cDUR cDURX cDUT cDUX cE",
    "cEX cFA cFAP cFAT cFAX cFI cFIP cFIT cFIX cFO cFOP cFOX cFU cFUP cFUR cFURX cFUT cFUX cFY",
    "cFYP cFYT cFYX cGA cGAP cGAT cGAX cGE cGEP cGET cGEX cGGA cGGAP cGGAT cGGAX cGGE cGGEP",
    "cGGET cGGEX cGGI cGGIE cGGIEP cGGIEX cGGIT cGGIX cGGO cGGOP cGGOT cGGOX cGGU cGGUO cGGUOP",
    "cGGUOT cGGUOX cGGUP cGGUR cGGURX cGGUT cGGUX cGI cGIE cGIEP cGIET cGIEX cGIP cGIT cGIX cGO",
    "cGOP cGOT cGOX cGU cGUO cGUOP cGUOT cGUOX cGUP cGUR cGURX cGUT cGUX cHA cHAP cHAT cHAX cHE",
    "cHEP cHEX cHIE cHIEX cHIT cHLA cHLAP cHLAT cHLAX cHLE cHLEP cHLEX cHLI cHLIE cHLIEP cHLIEX",
    "cHLIP cHLIT cHLIX cHLO cHLOP cHLOX cHLU cHLUO cHLUOP cHLUOX cHLUP cHLUR cHLURX cHLUT cHLUX",
    "cHLY cHLYP cHLYR cHLYRX cHLYT cHLYX cHMA cHMAP cHMAT cHMAX cHMI cHMIE cHMIEP cHMIEX cHMIP",
    "cHMIT cHMIX cHMO cHMOP cHMOT cHMOX cHMU cHMUO cHMUOP cHMUOX cHMUP cHMUR cHMURX cHMUT cHMUX",
    "cHMY cHMYP cHMYR cHMYRX cHMYX cHNA cHNAP cHNAT cHNAX cHNE cHNEP cHNEX cHNI cHNIE cHNIEP",
    "cHNIET cHNIEX cHNIP cHNIT cHNIX cHNOP cHNOT cHNOX cHNUO cHNUOX cHNUT cHO cHOP cHOT cHOX",
    "cHUO cHUOP cHUOT cHUOX cHXA cHXAP cHXAT cHXAX cHXE cHXEP cHXEX cHXI cHXIE cHXIEP cHXIET",
    "cHXIEX cHXIP cHXIT cHXIX cHXO cHXOP cHXOT cHXOX cHXUO cHXUOP cHXUOT cHXUOX cI cIE cIEP cIET",
    "cIEX cIP cIT cITERATION_ dMARK cIX cJI cJIE cJIEP cJIET cJIEX cJIP cJIT cJIX cJJI cJJIE",
    "cJJIEP cJJIET cJJIEX cJJIP cJJIT cJJIX cJJO cJJOP cJJOT cJJOX cJJU cJJUO cJJUOP cJJUOX",
    "cJJUP cJJUR cJJURX cJJUT cJJUX cJJY cJJYP cJJYT cJJYX cJO cJOP cJOT cJOX cJU cJUO cJUOP",
    "cJUOT cJUOX cJUP cJUR cJURX cJUT cJUX cJY cJYP cJYR cJYRX cJYT cJYX cKA cKAP cKAT cKAX cKE",
    "cKEP cKET cKEX cKI cKIE cKIEP cKIEX cKIP cKIT cKIX cKO cKOP cKOT cKOX cKU cKUO cKUOP cKUOX",
    "cKUP cKUR cKURX cKUT cKUX cLA cLAP cLAT cLAX cLE cLEP cLEX cLI cLIE cLIEP cLIET cLIEX cLIP",
    "cLIT cLIX cLO cLOP cLOT cLOX cLU cLUO cLUOP cLUOT cLUOX cLUP cLUR cLURX cLUT cLUX cLY cLYP",
    "cLYR cLYRX cLYT cLYX cMA cMAP cMAT cMAX cME cMEX cMGA cMGAP cMGAT cMGAX cMGE cMGEP cMGEX",
    "cMGIE cMGIEX cMGO cMGOP cMGOT cMGOX cMGU cMGUO cMGUOP cMGUOX cMGUP cMGUR cMGURX cMGUT cMGUX",
    "cMI cMIE cMIEP cMIEX cMIP cMIT cMIX cMO cMOP cMOT cMOX cMU cMUO cMUOP cMUOT cMUOX cMUP cMUR",
    "cMURX cMUT cMUX cMY cMYP cMYT cMYX cNA cNAP cNAX cNBA cNBAP cNBAT cNBAX cNBI cNBIE cNBIEP",
    "cNBIEX cNBIP cNBIT cNBIX cNBO cNBOP cNBOT cNBOX cNBU cNBUP cNBUR cNBURX cNBUT cNBUX cNBY",
    "cNBYP cNBYR cNBYRX cNBYT cNBYX cNDA cNDAP cNDAT cNDAX cNDE cNDEP cNDEX cNDI cNDIE cNDIEX",
    "cNDIP cNDIT cNDIX cNDO cNDOP cNDOT cNDOX cNDU cNDUP cNDUR cNDURX cNDUT cNDUX cNE cNEP cNEX",
    "cNGA cNGAP cNGAT cNGAX cNGE cNGEP cNGEX cNGIE cNGIEP cNGIEX cNGO cNGOP cNGOT cNGOX cNGUO",
    "cNGUOT cNGUOX cNI cNIE cNIEP cNIEX cNIP cNIT cNIX cNJI cNJIE cNJIEP cNJIET cNJIEX cNJIP",
    "cNJIT cNJIX cNJO cNJOP cNJOT cNJOX cNJU cNJUO cNJUOX cNJUP cNJUR cNJURX cNJUX cNJY cNJYP",
    "cNJYR cNJYRX cNJYT cNJYX cNO cNOP cNOT cNOX cNRA cNRAP cNRAT cNRAX cNRE cNREP cNRET cNREX",
    "cNRO cNROP cNROX cNRU cNRUP cNRUR cNRURX cNRUT cNRUX cNRY cNRYP cNRYR cNRYRX cNRYT cNRYX",
    "cNU cNUO cNUOP cNUOX cNUP cNUR cNURX cNUT cNUX cNYI cNYIE cNYIEP cNYIET cNYIEX cNYIP cNYIT",
    "cNYIX cNYO cNYOP cNYOT cNYOX cNYU cNYUO cNYUOP cNYUOX cNYUP cNYUT cNYUX cNZA cNZAP cNZAT",
    "cNZAX cNZE cNZEX cNZI cNZIE cNZIEP cNZIEX cNZIP cNZIT cNZIX cNZOP cNZOX cNZU cNZUO cNZUOX",
    "cNZUP cNZUR cNZURX cNZUX cNZY cNZYP cNZYR cNZYRX cNZYT cNZYX cO cOP cOT cOX cPA cPAP cPAT",
    "cPAX cPI cPIE cPIEP cPIEX cPIP cPIT cPIX cPO cPOP cPOT cPOX cPU cPUO cPUOP cPUOX cPUP cPUR",
    "cPURX cPUT cPUX cPY cPYP cPYR cPYRX cPYT cPYX cQI cQIE cQIEP cQIET cQIEX cQIP cQIT cQIX cQO",
    "cQOP cQOT cQOX cQU cQUO cQUOP cQUOT cQUOX cQUP cQUR cQURX cQUT cQUX cQY cQYP cQYR cQYRX",
    "cQYT cQYX cRA cRAP cRAT cRAX cRE cREP cREX cRO cROP cROT cROX cRRA cRRAX cRRE cRREP cRRET",
    "cRREX cRRO cRROP cRROT cRROX cRRU cRRUO cRRUOX cRRUP cRRUR cRRURX cRRUT cRRUX cRRY cRRYP",
    "cRRYR cRRYRX cRRYT cRRYX cRU cRUO cRUOP cRUOX cRUP cRUR cRURX cRUT cRUX cRY cRYP cRYR cRYRX",
    "cRYT cRYX cSA cSAP cSAT cSAX cSE cSEP cSEX cSHA cSHAP cSHAT cSHAX cSHE cSHEP cSHET cSHEX",
    "cSHO cSHOP cSHOT cSHOX cSHU cSHUO cSHUOP cSHUOX cSHUP cSHUR cSHURX cSHUT cSHUX cSHY cSHYP",
    "cSHYR cSHYRX cSHYT cSHYX cSI cSIE cSIEP cSIEX cSIP cSIT cSIX cSO cSOP cSOT cSOX cSSA cSSAP",
    "cSSAT cSSAX cSSE cSSEP cSSEX cSSI cSSIE cSSIEP cSSIEX cSSIP cSSIT cSSIX cSSO cSSOP cSSOT",
    "cSSOX cSSU cSSUP cSSUT cSSUX cSSY cSSYP cSSYR cSSYRX cSSYT cSSYX cSU cSUO cSUOP cSUOX cSUP",
    "cSUR cSURX cSUT cSUX cSY cSYP cSYR cSYRX cSYT cSYX cTA cTAP cTAT cTAX cTE cTEP cTEX cTI",
    "cTIE cTIEP cTIEX cTIP cTIT cTIX cTO cTOP cTOT cTOX cTU cTUO cTUOP cTUOT cTUOX cTUP cTUR",
    "cTURX cTUT cTUX cUO cUOP cUOX cVA cVAP cVAT cVAX cVEP cVEX cVI cVIE cVIEP cVIET cVIEX cVIP",
    "cVIT cVIX cVO cVOP cVOT cVOX cVU cVUP cVUR cVURX cVUT cVUX cVY cVYP cVYR cVYRX cVYT cVYX",
    "cWA cWAP cWAT cWAX cWE cWEP cWEX cWO cWOP cWOX cWU cWUO cWUOP cWUOX cXI cXIE cXIEP cXIET",
    "cXIEX cXIP cXIT cXIX cXO cXOP cXOT cXOX cXUO cXUOX cXY cXYP cXYR cXYRX cXYT cXYX cYI cYIE",
    "cYIEP cYIET cYIEX cYIP cYIT cYIX cYO cYOP cYOT cYOX cYU cYUO cYUOP cYUOT cYUOX cYUP cYUR",
    "cYURX cYUT cYUX cYY cYYP cYYR cYYRX cYYT cYYX cZA cZAP cZAT cZAX cZE cZEP cZEX cZHA cZHAP",
    "cZHAT cZHAX cZHE cZHEP cZHET cZHEX cZHO cZHOP cZHOT cZHOX cZHU cZHUO cZHUOP cZHUOX cZHUP",
    "cZHUR cZHURX cZHUT cZHUX cZHY cZHYP cZHYR cZHYRX cZHYT cZHYX cZI cZIE cZIEP cZIEX cZIP cZIT",
    "cZIX cZO cZOP cZOT cZOX cZU cZUO cZUOP cZUOX cZUP cZUR cZURX cZUT cZUX cZY cZYP cZYR cZYRX",
    "cZYT cZYX cZZA cZZAP cZZAT cZZAX cZZE cZZEP cZZEX cZZI cZZIE cZZIEP cZZIET cZZIEX cZZIP",
    "cZZIT cZZIX cZZO cZZOP cZZOX cZZU cZZUP cZZUR cZZURX cZZUX cZZY cZZYP cZZYR cZZYRX cZZYT",
    "cZZYX aYO- bYO aZANABAZAR_ bSQUARE_ cCLOSING_ dDOUBLE- eLINED_ fHEAD_ gMARK dHEAD_ eMARK",
    "cCLUSTER- dFINAL_ eLETTER_ fLA fRA fVA fYA dINITIAL_ eLETTER_ fRA cFINAL_ dCONSONANT_ eMARK",
    "cINITIAL_ dDOUBLE- eLINED_ fHEAD_ gMARK dHEAD_ eMARK cLETTER_ d- eA dA dBA dBHA dCA dCHA",
    "dDA dDDA dDDHA dDHA dDZA dDZHA dGA dGHA dHA dJA dKA dKHA dKSSA dLA dMA dNA dNGA dNNA dNYA",
    "dPA dPHA dRA dSA dSHA dSSA dTA dTHA dTSA dTSHA dTTA dTTHA dVA dYA dZA dZHA cMARK_ dDOUBLE_",
    "eSHAD dLONG_ eTSHEG dSHAD dTSHEG cSIGN_ dANUSVARA dCANDRABINDU dCANDRABINDU_ eWITH_",
    "fORNAMENT dCANDRA_ eWITH_ fORNAMENT dVIRAMA dVISARGA cSUBJOINER cVOWEL_ dLENGTH_ eMARK",
    "dSIGN_ eAI eAU eE eI eO eOE eREVERSED_ fI eU eUE aZEBRA_ bFACE aZERO_ bWIDTH_ cJOINER cNO-",
    "dBREAK_ eSPACE cNON- dJOINER cSPACE aZEUS aZIPPER- bMOUTH_ cFACE aZNAMENNY_ bCOMBINING_",
    "cATTACHING_ dVERTICAL_ eOMET cLOWER_ dTONAL_ eRANGE_ fINDICATOR cMARK_ dBORZAYA dCHASHKA",
    "dCHASHKA_ ePOLNAYA dCURVED_ eOMET dDEMESTVENNY_ eZADERZHKA dDVOETOCHIE dGORAZDO_ eNIZKO_",
    "fON_ gLEFT gRIGHT fS_ gKRYZHEM_ hON_ iLEFT iRIGHT eVYSOKO dKACHKA dKRYZH dKRYZH_ eON_ fLEFT",
    "dKUPNAYA dLOMKA dMALO_ ePOVYSHE_ fON_ gLEFT gRIGHT fSTRANNO fS_ gKHOKHLOM_ hON_ iLEFT",
    "iRIGHT gKRYZHEM dNIZKO_ eON_ fLEFT fRIGHT eS_ fKRYZHEM_ gON_ hLEFT hRIGHT dOBLACHKO dON",
    "dOTSECHKA dPODCHASHIE dPODCHASHIE_ eWITH_ fVERTICAL_ gSTROKE dPODVERTKA dPOVYSHE_ eON_",
    "fLEFT fRIGHT eSTRANNO eS_ fKHOKHLOM_ gON_ hLEFT hRIGHT fKRYZHEM dRAVNO dRAZSEKA dSKOBA",
    "dSOROCHYA_ eNOZHKA dSREDNE_ eON_ fLEFT fRIGHT dSTRANNO_ eMALO_ fPOVYSHE dTIKHAYA dTOCHKA",
    "dTSATA_ eON_ fLEFT fRIGHT eS_ fKRYZHEM dUDARKA dVYSOKO_ eON_ fLEFT fRIGHT eS_ fKHOKHLOM_",
    "gON_ hLEFT hRIGHT fKRYZHEM dZADERZHKA dZELO dZEVOK cTONAL_ dRANGE_ eMARK_ fMRACHNO fSVETLO",
    "fTRESVETLO bNEUME_ cCHASHKA cCHELYUSTKA cDEMESTVENNY_ dKLYUCH cDERBITSA cDOUBLE_ dZAPYATAYA",
    "cDUDA cDVA_ dV_ eCHELNU cFITA cGOLUBCHIK_ dBORZY dMRACHNY dSVETLY dTIKHY dTRESVETLY",
    "cKHAMILO cKLYUCH cKOBYLA cKRYUK cKRYUK_ dTIKHY cKRYZH cKUFISMA cMECHIK cMECHIK_",
    "dKLYUCHENEPOSTOYANNY dKLYUCHEPOVODNY dKLYUCHEVOY dPOVODNY cNEMKA cOBLAKO cOSOKA cOSOKA_",
    "dKLYUCHEVAYA_ eNEPOSTOYANNAYA eSVETLAYA dKRYUKOVAYA_ eSVETLAYA dSVETLAYA dTRESVETLAYA",
    "cPALKA cPARAKLIT cPAUK cPEREVODKA cPEREVODKA_ dNEPOSTOYANNAYA cPODCHASHIE cPOLKULIZMY",
    "cREVERSED_ dCHELYUSTKA cROG cSKAMEYTSA_ dDVOECHELNAYA_ eKLYUCHEVAYA eNEPOSTOYANNAYA",
    "ePROSTAYA eSVETLAYA dKLYUCHENEPOSTOYANNAYA dKLYUCHEVAYA_ eSVETLAYA eTIKHAYA dMRACHNAYA",
    "dSVETLAYA dTIKHAYA dTRESVETLAYA cSLOZHITIE cSLOZHITIE_ dS_ eKRYZHEM eZAPYATOY dZAKRYTOE",
    "cSTATYA cSTATYA_ dNEPOSTOYANNAYA dS_ eDVUMYA_ fZAPYATYMI eKRYZHEM eKRYZHEM_ fI_ gZAPYATOY",
    "eROGOM eZAPYATOY eZAPYATOY_ fI_ gKRYZHEM gPODCHASHIEM dZAKRYTAYA dZAKRYTAYA_ eS_ fZAPYATOY",
    "cSTOPITSA cSTOPITSA_ dS_ eOCHKOM dWITH_ eSOROCHYA_ fNOZHKA cSTRELA_ dDVOECHELNAYA",
    "dDVOECHELNAYA_ eKLYUCHEVAYA dDVOECHELNOKRYZHEVAYA dDVOECHELNOPOVODNAYA",
    "dDVOECHELNOPOVODNAYA_ eKLYUCHEVAYA dGROMNAYA dGROMNAYA_ eWITH_ fSINGLE_ gZAPYATAYA",
    "dGROMOKRYZHEVAYA dGROMOKRYZHEVAYA_ ePOVODNAYA dGROMOPOVODNAYA dGROMOPOVODNAYA_ eWITH_",
    "fDOUBLE_ gZAPYATAYA fSINGLE_ gZAPYATAYA dKLYUCHENEPOSTOYANNAYA dKLYUCHEPOVODNAYA",
    "dKRYUKOVAYA dKRYUKOVAYA_ eGROMNAYA eGROMNAYA_ fWITH_ gSINGLE_ hZAPYATAYA eGROMOKRYZHEVAYA",
    "eGROMOKRYZHEVAYA_ fPOVODNAYA eGROMOPOVODNAYA eGROMOPOVODNAYA_ fWITH_ gDOUBLE_ hZAPYATAYA",
    "gSINGLE_ hZAPYATAYA ePOVODNAYA eTRYASKA dKRYZHEVAYA dMRACHNOTIKHAYA dNEPOSTOYANNAYA",
    "dPOLUPOVODNAYA dPOVODNAYA dPROSTAYA dTIKHAYA_ ePUTNAYA dTRYASOGLASNAYA dTRYASOPOVODNAYA",
    "dTRYASOSTRELNAYA cVRAKHIYA_ dKLYUCHEVAYA_ eMRACHNAYA ePROSTAYA eSVETLAYA eTRESVETLAYA",
    "dMRACHNAYA dPROSTAYA dSVETLAYA dTRESVETLAYA cZANOZHEK cZAPYATAYA cZMEYTSA bPRIZNAK_",
    "cMODIFIER_ dDIRECTION_ eFLIP dKRYZH dLEVEL- e2 e3 dROG aZOMBIE aZWJ aZWNBSP aZWNJ aZWSP aZ_",
    "bNOTATION_ cBAG_ dMEMBERSHIP cDOMAIN_ dANTIRESTRICTION cLEFT_ dBINDING_ eBRACKET dIMAGE_",
    "eBRACKET cRANGE_ dANTIRESTRICTION cRELATIONAL_ dCOMPOSITION cRIGHT_ dBINDING_ eBRACKET",
    "dIMAGE_ eBRACKET cSCHEMA_ dCOMPOSITION dPIPING dPROJECTION cSPOT cTYPE_ dCOLON"]

end GoMetrics.Text.CharName
