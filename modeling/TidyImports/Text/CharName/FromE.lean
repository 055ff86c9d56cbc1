/-!
# Names of characters from E to L

The names that begin with these letters, in the order of the alphabet. The small letters before an
ending add up, from nothing for `a` to 25 for `z`, to how many of the last characters of the name
before give way to it.
-/

namespace TidyImports.Text.CharName

def linesFromE : List String := [
  "aE-MAIL SYMBOLmAGLEdRa OF MAIZEfRICEhWITH HEARING AIDrTHa GLOBE AMERICAShSIA-AUSTRALIA",
  "oEUROPE-AFRICAsROUNDkST SYRIAC CROSSqDITORIAL CORONISqGGbYPTIAN HIEROGLYPH A001b2b3b4b5aAc6aA",
  "bBc7b8b9c10b1b2b3b4aAc5b6b7aAc8b9c20b1b2b3b4b5b6b7b8b9c30b1b2aAc3b4b5b6b7b8b9c40aAc1b2aAc3aAc4",
  "b5aAc6b7b8b9c50b1b2b3b4b5b6b7b8b9c60b1b2b3b4b5b6b7b8b9c70dA001b2b3b4b5b6b7aAbBc8b9c10b1b2b3b4",
  "b5b6b7b8b9c20b1b2b3b4b5b6b7b8b9c30b1b2fB001b2b3b4b5aAc6b7b8b9dEGIN SEGMENTnC001b2aAbBbCc3b4b5",
  "b6b7b8b9c10aAc1b2b3b4b5b6b7b8b9c20b1b2b3b4eD001b2b3b4b5b6b7b8aAc9c10b1b2b3b4b5b6b7b8b9c20b1b2",
  "b3b4b5b6b7aAc8b9c30b1aAc2b3b4aAc5b6b7b8b9c40b1b2b3b4b5b6aAc7b8aAc9c50aAbBbCbDbEbFbGbHbIc1b2aA",
  "c3b4aAc5b6b7b8b9c60b1b2b3b4b5b6b7aAbBbCbDbEbFbGbHfE001b2b3b4b5b6b7b8aAc9aAd10b1b2b3b4b5b6aAc7",
  "aAc8b9c20aAc1b2b3b4b5b6b7b8aAc9c30b1b2b3b4aAc6b7b8dND SEGMENTlF001aAc2b3b4b5b6b7b8b9c10b1b2b3",
  "aAc4b5b6b7b8b9c20b1aAc2b3b4b5b6b7b8b9c30b1aAc2b3b4b5b6b7aAc8aAc9c40b1b2b3b4b5aAc6aAc7aAc8b9c50",
  "b1aAbBbCc2b3eG001b2b3b4b5b6aAc7aAbBc8b9c10b1aAc2b3b4b5b6b7b8b9c20aAc1b2b3b4b5b6aAc7b8b9c30b1b2",
  "b3b4b5b6aAc7aAc8b9c40b1b2b3aAc4b5aAc6b7b8b9c50b1b2b3b4eH001b2b3b4b5b6aAc7b8dORIZONTAL JOINER",
  "rI001b2b3b4b5aAc6b7b8b9aAd10aAc1aAc2b3b4b5dNSERT AT BOTTOM ENDdSTARTmTOP ENDdSTARTtK001b2b3b4",
  "b5b6b7b8eL001b2aAc3b4b5b6aAc7b8eM001aAbBc2b3aAc4b5b6b7b8b9c10aAc1b2aAbBbCbDbEbFbGbHc3b4b5aAc6",
  "aAc7aAc8b9c20b1b2aAc3b4aAc5b6b7b8aAc9c30b1aAc2b3aAbBc4b5b6b7b8b9c40aAc1b2b3b4eN001b2b3b4b5b6b7",
  "b8b9c10b1b2b3b4b5b6b7b8aAbBc9c20b1b2b3b4b5aAc6b7b8b9c30b1b2b3aAc4aAc5aAc6b7aAc8b9c40b1b2dL001",
  "b2b3b4b5aAc6b7b8b9c10b1b2b3b4b5b6b7aAc8b9c20eU001b2b3b4b5b6b7b8b9c10aAc1aAc2b3b4b5b6b7b8aAc9",
  "c20b1b2aAgO001aAc2b3b4b5aAc6aAbBbCbDbEbFc7b8b9c10aAbBbCc1b2b3b4b5b6b7b8b9aAd20aAc1b2b3b4aAc5aA",
  "c6b7b8b9aAd30aAc1b2b3aAc4b5b6aAbBbCbDc7b8b9c40b1b2b3b4b5b6b7b8b9c50aAbBc1dVERLAY MIDDLEoP001aA",
  "c2b3aAc4b5b6b7b8b9c10b1eQ001b2b3b4b5b6b7eR001b2aAc3aAbBc4b5b6b7b8b9c10aAc1b2b3b4b5b6aAc7b8b9",
  "c20b1b2b3b4b5b6b7b8b9eS001b2aAc3b4b5b6aAc7b8b9c10b1b2b3b4aAbBc5b6b7aAc8b9c20b1b2b3b4b5b6aAbBc7",
  "b8b9c30b1b2b3b4b5aAc6b7b8b9c40b1b2b3b4b5b6eT001b2b3aAc4b5b6b7aAc8aAc9aAd10b1aAc2b3b4b5b6aAc7b8",
  "b9c20b1b2b3b4b5b6b7b8b9c30b1b2aAc3aAc4b5b6eU001b2b3b4b5b6aAbBc7b8b9c10b1b2b3b4b5b6b7b8b9c20b1",
  "b2b3aAc4b5b6b7b8b9aAd30b1b2aAc3b4b5b6b7b8b9c40b1b2eV001aAbBbCbDbEbFbGbHbIc2aAc3b4b5b6b7aAbBc8",
  "b9c10b1aAbBbCc2aAbBc3b4b5b6b7b8b9c20aAbBbCbDbEbFbGbHbIbJbKbLc1b2b3aAc4b5b6b7b8aAc9aAd30aAc1aA",
  "c2b3aAc4b5b6b7aAc8b9c40aAeERTICAL JOINERpW001b2b3aAc4b5b6b7b8b9aAd10aAc1b2b3b4aAc5b6b7aAc8aAc9",
  "c20b1b2b3b4aAc5eX001b2b3b4aAbBc5b6aAc7b8aAfY001aAc2b3b4b5b6b7b8eZ001b2aAbBbCbDc3aAbBc4aAc5aAc6",
  "b7b8b9c10b1b2b3b4b5aAbBbCbDbEbFbGbHbIc6aAbBbCbDbEbFbGbHyIGHT PETALLED OUTLINED BLACK FLORETTE",
  "zgOINTED BLACK STARkPINWHEEL STARnRECTILINEAR BLACK STARzfSPOKED ASTERISK",
  "pTEARDROP-SPOKED PROPELLER ASTERISKzkH NOTEkJECT SYMBOLlLBASAN LETTER AbBEcCEbHEdDEbHEdEaIcFE",
  "cGEbHAMMAeEcJEdHEcIbJEcKEbHEdLEbLEdMEcNAbDEcEbJEdObPEcQEcREbREdSEbHEdTEbHEdUbVEcXEcYbZEbHE",
  "qECTRIC ARROWfLIGHT BULBkPLUGeTORCHgAL INTERSECTIONuMENT OFa OPENING DOWNWARDSjUPWARDS",
  "pWITH DOT ABOVEjLONG HORIZONTAL STROKEwOVERBARhTWO HORIZONTAL STROKESwUNDERBAR",
  "iVERTICAL BAR AT END OF HORIZONTAL STROKEzzdPHANTfVATORgFbYMAIC LETTER ALEPHeYINeBETHeDALETH",
  "gGIMELfHEaTHeKAPHeLAMEDHgMEMdNUNdPEcQOPHeRESHeSADHEdMEKHfHINeTAWcETHeWAWdYODHeZAYIN",
  "lIGATURE ZAYIN-YODHzbM DASHeQUADeSPACEgOJI COMPONENT BALDeCURLY HAIRkRED HAIRiWHITE HAIR",
  "uMODIFIER FITZPATRICK TYPE-1-2d3b4b5b6zgPHASIS SYMBOLmTY DOCUMENTiNESTdOTEa PADbGEjPAGEaSfSET",
  "a WITH LEFT ARROW ABOVEqOVERBARhRIGHT ARROW ABOVErSMALL CIRCLE ABOVEzhN DASHeQUADeSPACE",
  "gD OF GUARDED AREAmLINEeMEDIUMgPROOFcTECTED AREAoSELECTED AREAnTEXTdRANSMISSIONa BLOCK",
  "vWITH LEFTWARDS ARROW ABOVEzdQaUIRYfTER SYMBOLkVELOPEa WITH DOWNWARDS ARROW ABOVEvLIGHTNINGwOL",
  "bMbTcPAcQUAL AND PARALLEL TOpTO BY DEFINITIONnOR GREATER-THANmLESS-THANjPRECEDESiSUCCEEDS",
  "pS COLONfSIGNa ABOVE LEFTWARDS ARROWpPLUS SIGNjRIGHTWARDS ARROWqTILDE OPERATOR",
  "tND SLANTED PARALLELa WITH TILDE ABOVEzmWITH BUMPY ABOVElDOT BELOWjINFINITY BELOW",
  "oTWO DOTS ABOVE AND TWO DOTS BELOWzsWITH ASTERISKrIANGULAR TOkVALENT TOcWITH FOUR DOTS ABOVE",
  "zfRASE TO THE LEFTeRIGHTqIS FORM ONEdTWOlROR-BARRED BLACK CIRCLEgDIAMONDhSQUAREmWHITE CIRCLE",
  "gDIAMONDhSQUAREySAbCaAPEeTIMATED SYMBOLiSiTBbHIOPIC COLON",
  "dMBINING GEMINATION AND VOWEL LENGTH MARKvMARKpVOWEL LENGTH MARKyMAfDIGIT EIGHTfFIVEdOUReNINE",
  "eONEdSEVENeIXdTHREEeWOjFULL STOPjNUMBER EIGHTYgFIFTYeORTYfHUNDREDhNINETYgSEVENTYgIXTYfTEN",
  "a THOUSANDlHIRTYfWENTYnPARAGRAPH SEPARATORsREFACE COLONnQUESTION MARKnSECTION MARKkMICOLON",
  "iYLLABLE BAaAcBAaAcEaEcIbObUcEaEcIbOaAcUbWAbEaEcIdCAaAcCAaAcEaEcHAaAcEaEcHAaAcEaEcIbObUcIbObU",
  "cIbObUcEaEcHAaAcEaEcIbOaAcUbWAdIbOaAcUbWAdDAaAcDAaAcEaEcHAAcEaEcIbObUcIbOaAcUbWAdEaEcIbOaAcU",
  "bWAcZAAcEaEcIbObUdFAaAcEaEcIbObUbWAbEaEcIcYAdGAaAcEaEcGAaAcEaEcIbObUbWAaAcEaEcIdIbLOTTAL AaAcE",
  "aEcIbOaAcUbWAjOaAcUaRAGE BWEEcIdFWEEcIdGWEaEcIdHHWAeKWEaEcIdMWEEcIdPWEEcIdQWEaEcIjWAaAcEaEcI",
  "cYAaAcEaEcIbObUdHAaAcEaEcHAaAcEaEcIbObUbWAbEaEcIcYAaAcEaEcIbObUdIbOaAcUcJAaAcEaEcIbOaAcUbWAdKA",
  "aAcEaEcIbOaAcUbWAaAcEaEcIcXAaAcEaEcIbObUbWAaAcEaEcIdYAaAcEaEcIbObUdLAaAcEaEcIbOaAcUbWAdMAaAcE",
  "aEcIbOaAcUbWAbEaEcIcYAdNAaAcEaEcIbOaAcUbWAcYAaAcEaEcIbOaAcUbWAePAaAcEaEcHAaAbRYNGEAL AaAcEaEcI",
  "bObUkEaEcIbOaAcUbWAdIbOaAcUbWAbEaEcIdQAaAcEaEcHAaAcEaEcIbObUbWAaAcEaEcIdIbOaAcUbWAaAcEaEcIcYA",
  "aAcEaEcIbObUdRAaAcEaEcIbOaAcUbWAcYAdSAaAcEaBATBEIT BWAdFWAdMWAdPWAlEcHAaAcEaEcIbOaAcUbWAdIbOaA",
  "cSAaAcEaEcIbObUcUbWAcZAaAcEaEcIbObUbWAeTAaAcEaEcHAaAcEaEcIbOaAcUbWAdIbOaAcSAaAcEaEcIbObUbWA",
  "dTHAAcEaEcIbObUdUbWAcZAaAcEaEcIbOaAcUdVAaAcEaEcIbObUbWAdWAaAcEaEcIbOaAcUcXAaAcEaEcIbOaAcUbWAaA",
  "cEaEcIcYAaAcEaEcIbObUdYAaAcEaEcIbOaAcUcZAaAcEaEcHAaAcEaEcIbObUbWAdIbOaAcUbWAcZAaAcEaEcIbObU",
  "mTONAL MARK CHIRETgDERETa-HIDETkIFATfHIDETfKENATeURTeRIKRIKgSHORT RIKRIKmYIZETqWORDSPACEqX",
  "cULER CONSTANTmRO SIGNf-CURRENCY SIGNoPEAN CASTLEgPOST OFFICEtVERGREEN TREEnXCESS",
  "dLAMATION MARKeQUESTION MARKxPRESSIONLESS FACErTENDED ARABIC-INDIC DIGIT EIGHTfFIVEdOUReNINE",
  "eONEdSEVENeIXdTHREEeWOdZEROzeRATERRESTRIAL ALIENsEMELY HEAVY FIVE SPOKED ASTERISKuGREEK CROSS",
  "lSALTIREgIX SPOKED ASTERISKtWHITE CIRCLEgSQUAREzcYEaGLASSEShSeFACE HOLDING BACK TEARSsMASSAGE",
  "hPALMeSAVOURING DELICIOUS FOODxCREAMING IN FEARrTHROWING A KISSpWITH COLD SWEATiWBOY HAT",
  "kDIAGONAL MOUTHoFINGER COVERING CLOSED LIPSzcHEAD-BANDAGEmLOOK OF TRIUMPHpMEDICAL MASKlONOCLE",
  "hNO GOOD GESTUREpOK GESTUREjNE EYEBROW RAISEDrPEN EYES AND HAND OVER MOUTHyMOUTH",
  "a AND COLD SWEAToVOMITINGtPARTY HORN AND PARTY HATxEEKING EYEkLEADING EYESnROLLING EYES",
  "mSTUCK-OUT TONGUEa AND TIGHTLY-CLOSED EYEStWINKING EYEzhTEARS OF JOYlHERMOMETER",
  "lUNEVEN EYES AND WAVY MOUTHzcOUT MOUTHpSIMILE SIGNlTORYfIRYdLAFELeLEN LEAF",
  "hING DIAGONAL CROSSING NORTH EAST ARROWqRISING DIAGONALyIN WHITE CIRCLE IN BLACK SQUAREzvMILY",
  "eRSI SYMBOLkTHER CHRISTMASoX ICONeMACHINEkEARFUL FACEjTHERfMALE SIGNiININE ORDINAL INDICATOR",
  "yNCEReRRIS WHEELiYeFbIELD HOCKEY STICK AND BALLzGURE DASHeSPACEkLE CABINEThFOLDERgSEPARATOR",
  "lM FRAMESgPROJECTORmNITE PART INTEGRALsREa ENGINEfXTINGUISHERnCRACKERhWORK SPARKLERjS",
  "gST PLACE MEDALlQUARTER MOONa SYMBOLgWITH FACEwSTRONG ISOLATEsSHa CAKE WITH SWIRL DESIGNxEYE",
  "dING POLE AND FISHsTED HAND SIGNoVE DOT MARKePUNCTUATIONtLAG IN HOLEjMINGOfT SHOEfBREADfNESS",
  "gEUR-DE-LISjXED BICEPSlOPPY DISKiRAL HEARTjWERa PLAYING CARDSmUNCTUATION MARKvUSHED FACEkY",
  "aING DISCeENVELOPEiSAUCERmOGaGYdLDEReNDUEeOTaPRINTSiR ALLeCESdK AND KNIFEa WITH PLATE",
  "vED PARAGRAPHOSoINGeM FEEDgTUNE COOKIEmUNTAINfR BALLOON-SPOKED ASTERISKxCLUB-SPOKED ASTERISK",
  "tORNER ARROWS CIRCLING ANTICLOCKWISEzlDOT MARKePUNCTUATIONpLEAF CLOVERlPOINTED BLACK STAR",
  "sTEARDROP-SPOKED ASTERISKz-PER-EM SPACEnTH ROOTjX FACEhRACTION NUMERATOR ONEnSLASH",
  "lME WITH AN XePICTUREhTILESoEEZING FACEkNCH FRANC SIGNiIESkIED SHRIMPkOG FACE",
  "gNT-FACING BABY CHICKrTILTED SHADOWED WHITE RIGHTWARDS ARROWzqWNaING FACE WITH OPEN MOUTHzdSaI",
  "cUEL PUMPhLL BLOCKfMOON SYMBOLgWITH FACEoOUTER JOINkSTOPfWIDTH AMPERSANDiPOSTROPHEjSTERISK",
  "iBROKEN BARkCENT SIGNiIRCUMFLEX ACCENTqOLONdMMAbERCIAL ATnDIGIT EIGHTfFIVEdOUReNINEeONEdSEVEN",
  "eIXdTHREEeWOdZEROjOLLAR SIGNlEQUALS SIGNkXCLAMATION MARKqFULL STOPjGRAVE ACCENT",
  "kEATER-THAN SIGNrHYPHEN-MINUSmLATIN CAPITAL LETTER AbBbCbDbEbFbGbHbIbJbKbLbMbNbObPbQbRbSbTbUbV",
  "bWbXbYbZqSMALL LETTER AbBbCbDbEbFbGbHbIbJbKbLbMbNbObPbQbRbSbTbUbVbWbXbYbZtEFT CURLY BRACKET",
  "nPARENTHESISlSQUARE BRACKEToWHITE PARENTHESISuSS-THAN SIGNnOW LINEiMACRONgNOT SIGNhUMBER SIGN",
  "lPERCENT SIGNlLUS SIGNiOUND SIGNkQUESTION MARKlOTATION MARKoREVERSE SOLIDUSoIGHT CURLY BRACKET",
  "nPARENTHESISlSQUARE BRACKEToWHITE PARENTHESISxSEMICOLONiOLIDUShTILDEfVERTICAL LINEnWON SIGN",
  "iYEN SIGNqNCTION APPLICATIONrERAL URNjSEdVS1b2b3b4eGAME DIEgRLICfEARa WITH HANDLESiOUT HUB",
  "oM STONEgINIeNIEdOMETRIC PROPORTIONlALLY EQUAL TOfIVALENT TOyRGIAN CAPITAL LETTER AENcNcBAN",
  "dCANcHARcINdILdDONdENcGANcHANeHAEbRcEbIEcOEdINcJHANdILdKANcHAReLASdMANdNARdONcPARcHAReQARdRAE",
  "dSANcHINeTANbRdUNcVINdWEcXANdYNcZENcHARtLETTER AENcINcNcBANdCANcHARcINdILdDONdELIFIeNcFIcGAN",
  "cHANeHAEbRaD SIGNiEbIEcOEdINcJHANdILdKANcHAReLABIAL SIGNjSdMANdNARdONcPARcHAReQARdRAEdSANcHIN",
  "eTANbRcURNED GANkUNcVINdWEcXANdYNcZENcHARlMTAVRULI CAPITAL LETTER AENcINcNcBANdCANcHARcINdIL",
  "dDONdELIFIeNcFIcGANcHANeHAEbRaD SIGNiEbIEcOEdINcJHANdILdKANcHAReLABIAL SIGNjSdMANdNARdONcPAR",
  "cHAReQARdRAEdSANcHINeTANbRcURNED GANkUNcVINdWEcXANdYNcZENcHARzdPARAGRAPH SEPARATOR",
  "tSMALL LETTER AENcNcBANdCANcHARcINdILdDONdENcGANcHANeHAEbRcEbIEcOEdINcJHANdILdKANcHAReLASdMAN",
  "dNARdONcPARcHAReQARdRAEdSANcHINeTANbRdUNcVINdWEcXANdYNcZENcHARyRMAN PENNY SIGNpTA MARKiHOST",
  "eIMEL SYMBOLkRAFFE FACEjLaS SYMBOLlLAGOLITIC CAPITAL LETTER AZUdBIG YUSgUKYeCAUDATE CHRIVI",
  "nHRIVIgDJERVIfOBROeZELOfFITAdRITUfGLAGOLIhHERUeIaNITIAL IZHElOTATED BIG YUShSMALL YUSqZHEbITSA",
  "hKAKOeLATINATE MYSLITEpJUDIJEhMYSLITEhNASHIfONUcTUdPEbOKOJIgRITSIfSHAbTAaPICgLOVOeMALL YUS",
  "a WITH TAILsPIDERY HAkTROKUTASTI AlSIcVRIDOgUKUdVEDEeYATIdERIbUcSTUeObUcZEMLJAfHIVETE",
  "wSMALL LETTER AZUdBIG YUSgUKYeCAUDATE CHRIVInHRIVIgDJERVIfOBROeZELOfFITAdRITUfGLAGOLIhHERUeI",
  "aNITIAL IZHElOTATED BIG YUShSMALL YUSqZHEbITSAhKAKOeLATINATE MYSLITEpJUDIJEhMYSLITEhNASHIfONU",
  "cTUdPEbOKOJIgRITSIfSHAbTAaPICgLOVOeMALL YUSa WITH TAILsPIDERY HAkTROKUTASTI AlSIcVRIDOgUKU",
  "dVEDEeYATIdERIbUcSTUeObUcZEMLJAfHIVETEzdSS OF MILKlEICH STARKkOBE WITH MERIDIANSrVESdWING STAR",
  "lOAL NETfTcGGLESfLFEReRILLAfTHIC LETTER AHSAdIHVUSgBAIRKANhDAGSeEISdFAIHUfGIBAeHAGLdWAIRfIGGWS",
  "eUJAeJERdKUSMAfLAGUSfMANNAfNAUTHSfINE HUNDREDiTYgOTHALfPAIRTHRAiQAIRTHRAiRAIDAfSAUILfTEIWS",
  "eHIUTHgURUSeWINJAsRADUATION CAPlNTHA AU LENGTH MARKoLETTER AaAbIbUcBAbHAdCAbHAdDAbDAbHAdHAdEE",
  "cGAbHAdHAcIaIcJAbHAdKAbHAdLAbLAdMAcNAbGAcNAcYAdOOcPAbHAdRAcSAbHAcSAdTAbHAcTAbHAeUaUcVA",
  "bEDIC ANUSVARAiDOUBLE ANUSVARAuOCALIC LaLcRaRkYAjOMcSIGN ANUSVARAhVAGRAHAiCANDRABINDU",
  "kOMBINING ANUSVARA ABOVEyNUKTAfPLUTAfVIRAMAeSARGAmVOWEL SIGN AAbIbUcEEcIaIcOOcUaUcVOCALIC LaL",
  "cRaRzbPESdVE ACCENTkEATER-THAN ABOVE DOUBLE-LINE EQUAL ABOVE LESS-THAN",
  "ziLESS-THAN ABOVE DOUBLE-LINE EQUALziRIGHTWARDS ARROWqSIMILAR ABOVE LESS-THANpOR EQUAL",
  "pLANTED EQUAL ABOVE LESS-THAN ABOVE SLANTED EQUALzzeND NOT APPROXIMATE",
  "pSINGLE-LINE NOT EQUAL TOzdBESIDE LESS-THANpUT NOT EQUAL TOfIVALENT TOvCLOSED BY CURVE",
  "a ABOVE SLANTED EQUALzkEQUAL TO OR LESS-THANvOR APPROXIMATElEQUAL TOfIVALENT TOnLESS-THAN",
  "jSLANTED EQUAL TOa WITH DOT ABOVEa LEFTkINSIDEzjVER EQUAL TOjLAPPING LESS-THANvSIGN",
  "eWITH CIRCLE INSIDEnDOTdQUESTION MARK ABOVEzjEK ACROPHONIC ATTIC FIFTYa STATERShTALENTS",
  "gHOUSANDa STATERSuVEa HUNDREDa STATERShTALENTSpSTATERShTALENTSgHOUSANDa TALENTSvONE DRACHMA",
  "hHALFdUNDRED STATERShTALENTSpQUARTERhTHOUSAND STATERShTALENTSuTEN MNASeSTATERShTALENTS",
  "gHOUSAND STATERSzbCARYSTIAN FIVE HUNDREDvYRENAIC TWO DRACHMASvDELPHIC FIVE MNAS",
  "rEPIDAUREAN FIVE HUNDREDmTWOa DRACHMASxHERAEUM ONE PLETHRONrMIONIAN FIFTYfONEdTEN",
  "oMESSENIAN TENnNAXIAN FIVE HUNDREDtSTRATIAN FIFTY MNAStTHESPIAN FIFTYdVE HUNDREDhTHOUSANDnONE",
  "a HUNDREDhTHOUSANDmTENcHIRTYeREE HUNDREDmWOlROEZENIAN FIFTYa ALTERNATE FORMsVEa HUNDREDmTEN",
  "a ALTERNATE FORMzoNO TELEIAjROURA SIGNjTABE SIGNlBETA SYMBOL",
  "lCAPITAL DOTTED LUNATE SIGMA SYMBOLzbKAI SYMBOLkLETTER ALPHAa WITH DASIAa AND OXIA",
  "a AND PROSGEGRAMMENIxPERISPOMENIa AND PROSGEGRAMMENIzeROSGEGRAMMENIoVARIAa AND PROSGEGRAMMENI",
  "zjMACRONgOXIAePROSGEGRAMMENInSILIa AND OXIAa AND PROSGEGRAMMENIxPERISPOMENI",
  "a AND PROSGEGRAMMENIzeROSGEGRAMMENIoVARIAa AND PROSGEGRAMMENIzjTONOSfVARIAeRACHYqRCHAIC SAMPI",
  "nBETAeCHIdDELTAfEPSILONa WITH DASIAa AND OXIAeVARIApOXIAePSILIa AND OXIAeVARIApTONOSfVARIArTA",
  "a WITH DASIAa AND OXIAa AND PROSGEGRAMMENIxPERISPOMENIa AND PROSGEGRAMMENIzeROSGEGRAMMENI",
  "oVARIAa AND PROSGEGRAMMENIzjOXIAePROSGEGRAMMENInSILIa AND OXIAa AND PROSGEGRAMMENIxPERISPOMENI",
  "a AND PROSGEGRAMMENIzeROSGEGRAMMENIoVARIAa AND PROSGEGRAMMENIzjTONOSfVARIAoGAMMAfHETAeIOTA",
  "a WITH DASIAa AND OXIAePERISPOMENIlVARIAoIALYTIKAjMACRONgOXIAePSILIa AND OXIAePERISPOMENI",
  "lVARIApTONOSfVARIAeRACHYqKAPPAfLAMDAfMUcNUcOMEGAa WITH DASIAa AND OXIAa AND PROSGEGRAMMENI",
  "xPERISPOMENIa AND PROSGEGRAMMENIzeROSGEGRAMMENIoVARIAa AND PROSGEGRAMMENIzjOXIAePROSGEGRAMMENI",
  "nSILIa AND OXIAa AND PROSGEGRAMMENIxPERISPOMENIa AND PROSGEGRAMMENIzeROSGEGRAMMENIoVARIA",
  "a AND PROSGEGRAMMENIzjTONOSfVARIAoICRONa WITH DASIAa AND OXIAeVARIApOXIAePSILIa AND OXIAeVARIA",
  "pTONOSfVARIAsPAMPHYLIAN DIGAMMArHIcIbSIdRHOa WITH DASIAoSANcHOcIGMAfTAUcHETAfUPSILON",
  "a WITH DASIAa AND OXIAePERISPOMENIlVARIAoIALYTIKAjMACRONgOXIAeTONOSfVARIAeRACHYtXIcYOTdZETA",
  "kUNATE SIGMA SYMBOLtREVERSED DOTTED LUNATE SIGMA SYMBOLzbLUNATE SIGMA SYMBOLzdTHETA SYMBOL",
  "uDASIAa AND OXIAePERISPOMENIlVARIAoIALYTIKA AND OXIAePERISPOMENIlVARIAjTONOSoRACHMA SIGN",
  "mFIVE OBOLS SIGNoOUR OBOLS SIGNpGRAMMA SIGNlINDICTION SIGNmSTRUMENTAL NOTA",
  "TION SYMBOL-1a1b2b3",
  "b4b7b8b9c2a3b4b5b6b7b9c30b2b6b7b8b9c4a0b2b3b5b7b8b9c5a0b1b2b3b4c7b8zfKAI SYMBOLiPPA SYMBOL",
  "lORONISgYATHOS BASE SIGNrLETTER ARCHAIC KOPPAnDIGAMMAhKOPPAfSAMPIeMALL CAPITAL GAMMAfLAMDA",
  "fOMEGAfPIbSIdRHOqTIGMAgYOTjITRA SIGNjOWER NUMERAL SIGNrUNATE EPSILON SYMBOLoSIGMA SYMBOL",
  "tMETRETES SIGNmUSICAL LEIMMAoNUMERAL SIGNmOBOL SIGNiNE HALF SIGNa ALTERNATE FORMyQUARTER SIGN",
  "pUNKIA SIGNkXIAePERISPOMENIkHI SYMBOLjI SYMBOLiROSGEGRAMMENInSILIa AND OXIAePERISPOMENIlVARIA",
  "pQUESTION MARKnREVERSED LUNATE EPSILON SYMBOLzeHO SYMBOLgWITH STROKE SYMBOLwSINUSOID SIGN",
  "mMALL DOTTED LUNATE SIGMA SYMBOLzbLETTER ALPHAa WITH DASIAa AND OXIAa AND YPOGEGRAMMENI",
  "wPERISPOMENIa AND YPOGEGRAMMENIzeVARIAa AND YPOGEGRAMMENIxYPOGEGRAMMENIxMACRONgOXIA",
  "a AND YPOGEGRAMMENIwPERISPOMENIa AND YPOGEGRAMMENIzdSILIa AND OXIAa AND YPOGEGRAMMENI",
  "wPERISPOMENIa AND YPOGEGRAMMENIzeVARIAa AND YPOGEGRAMMENIxYPOGEGRAMMENIxTONOSfVARIA",
  "a AND YPOGEGRAMMENIwRACHYgYPOGEGRAMMENIxRCHAIC KOPPAfSAMPInBETAeCHIdDELTAeIGAMMAhEPSILON",
  "a WITH DASIAa AND OXIAeVARIApOXIAePSILIa AND OXIAeVARIApTONOSfVARIArTAa WITH DASIAa AND OXIA",
  "a AND YPOGEGRAMMENIwPERISPOMENIa AND YPOGEGRAMMENIzeVARIAa AND YPOGEGRAMMENIxYPOGEGRAMMENI",
  "xOXIAa AND YPOGEGRAMMENIwPERISPOMENIa AND YPOGEGRAMMENIzdSILIa AND OXIAa AND YPOGEGRAMMENI",
  "wPERISPOMENIa AND YPOGEGRAMMENIzeVARIAa AND YPOGEGRAMMENIxYPOGEGRAMMENIxTONOSfVARIA",
  "a AND YPOGEGRAMMENIxYPOGEGRAMMENIwFINAL SIGMAlGAMMAfHETAeIOTAa WITH DASIAa AND OXIA",
  "ePERISPOMENIlVARIAoIALYTIKAa AND OXIAePERISPOMENIlTONOSfVARIAtMACRONgOXIAePERISPOMENIkSILI",
  "a AND OXIAePERISPOMENIlVARIApTONOSfVARIAeRACHYqKAPPAeOPPAfLAMDAfMUcNUcOMEGAa WITH DASIA",
  "a AND OXIAa AND YPOGEGRAMMENIwPERISPOMENIa AND YPOGEGRAMMENIzeVARIAa AND YPOGEGRAMMENI",
  "xYPOGEGRAMMENIxOXIAa AND YPOGEGRAMMENIwPERISPOMENIa AND YPOGEGRAMMENIzdSILIa AND OXIA",
  "a AND YPOGEGRAMMENIwPERISPOMENIa AND YPOGEGRAMMENIzeVARIAa AND YPOGEGRAMMENIxYPOGEGRAMMENI",
  "xTONOSfVARIAa AND YPOGEGRAMMENIxYPOGEGRAMMENIwICRONa WITH DASIAa AND OXIAeVARIApOXIAePSILI",
  "a AND OXIAeVARIApTONOSfVARIAsPAMPHYLIAN DIGAMMArHIcIbSIdRHOa WITH DASIAfPSILIoSAMPIdNcHOcIGMA",
  "eTIGMAgTAUcHETAfUPSILONa WITH DASIAa AND OXIAePERISPOMENIlVARIAoIALYTIKAa AND OXIAePERISPOMENI",
  "lTONOSfVARIAtMACRONgOXIAePERISPOMENIkSILIa AND OXIAePERISPOMENIlVARIApTONOSfVARIAeRACHYtXI",
  "cZETAlREVERSED DOTTED LUNATE SIGMA SYMBOLzbLUNATE SIGMA SYMBOLziUBSCRIPT SMALL LETTER BETAeCHI",
  "dGAMMAfPHIdRHOzYMBOL TAU RHOoTALENT SIGNkHETA SYMBOLkREE OBOLS SIGNkQUARTERS SIGNsONOS",
  "eRYBLION BASE SIGNrWO OBOLS SIGNkTHIRDS SIGNpUPSILON WITH ACUTE AND HOOK SYMBOL",
  "vDIAERESIS AND HOOK SYMBOLzHOOK SYMBOLyVARIAeOCAL NOTA",
  "TION SYMBOL-1a0b1b2b3b4b5b6b7b8b9c2a0b1",
  "b2b3b4c3b4b5a0b1b2b3b4c6b7b8b9xXESTES SIGNlYEAR SIGNiPOGEGRAMMENInZERO SIGNlN APPLEfBOOKeHEART",
  "fSALADjIMACING FACElNNING CAT FACE WITH SMILING EYESzbFACEa WITH ONE LARGE AND ONE SMALL EYE",
  "zcSMILING EYESlTAR EYESzbOUP MARKeSEPARATORmWING HEARTmSbUARANI SIGNiDSMANhIDE DOGgTAR",
  "eJARATI ABBREVIATION SIGNrDIGIT EIGHTfFIVEdOUReNINEeONEdSEVENeIXdTHREEeWOdZEROkLETTER AaAbIbU",
  "cBAbHAdCAbHAdDAbDAbHAdHAdEbGAbHAdHAcIaIcJAbHAdKAbHAdLAbLAdMAcNAbGAcNAcYAdObPAbHAdRAcSAbHAcSA",
  "dTAbHAcTAbHAeUaUcVAbOCALIC LaLcRaRkYAcZHAkOMcRUPEE SIGNkSIGN ANUSVARAhVAGRAHAiCANDRABINDU",
  "kIRCLE NUKTA ABOVEsMADDAHgNUKTAfSHADDAfUKUNfTHREE-DOT NUKTA ABOVEuWO-CIRCLE NUKTA ABOVEwVIRAMA",
  "eSARGAmVOWEL CANDRA EbOiSIGN AAbIbUcCANDRA EbOiEbIaIcObUaUcVOCALIC LaLcRaR",
  "zdNJALA GONDI DIGIT EIGHTfFIVEdOUReNINEeONEdSEVENeIXdTHREEeWOdZEROkLETTER AaAbIbUcBAbHAdCAbHA",
  "dDAbDAbHAdHAdEEcGAbHAdHAcIaIcJAbHAdKAbHAdLAbLAdMAcNAbGAdOOcPAbHAdRAcSAcTAbHAcTAbHAeUaUcVAcYA",
  "jOMcSIGN ANUSVARAiVISARGAmVIRAMAfOWEL SIGN AAbIbUcEEcIaIcOOcUaUzRMUKHI ABBREVIATION SIGNqDDAK",
  "fDIGIT EIGHTfFIVEdOUReNINEeONEdSEVENeIXdTHREEeWOdZEROkEK ONKARiIRIdLETTER AaAbIbUcBAbHAdCAbHA",
  "dDAbDAbHAdHAdEEcFAcGAbHAbHAeHAcIaIcJAbHAdKAbHAbHAeLAbLAdMAcNAbGAcNAcYAdOOcPAbHAdRAbRAdSAbHAdTA",
  "bHAcTAbHAeUaUcVAcYAcZAjSIGN ADAK BINDIkBINDIfNUKTAfUDAATfVIRAMAeSARGAhYAKASHlTIPPIfURA",
  "dVOWEL SIGN AAbIbUcEEcIaIcOOcUaUwHADESdIR SPACEgCUTfLFWIDTH BLACK SQUAREmDOWNWARDS ARROW",
  "pFORMS LIGHT VERTICALuHANGUL FILLERgLETTER AaEcCHIEUCHgIEUCfEaObUcHIEUHfIaEUNGfKHIEUKHgIYEOK",
  "a-SIOSlMIEUMfNIEUNa-CIEUCfHIEUHlOaEcPHIEUPHgIEUPa-SIOSkRIEULa-HIEUHfKIYEOKgMIEUMfPHIEUPHgIEUP",
  "fSIOSeTHIEUTHnSIOSdSANGCIEUCfKIYEOKgPIEUPfSIOSeTIKEUTlTHIEUTHgIKEUTgUbWAaEcEaOcIcYAaEcEaOcIbO",
  "bUqIDEOGRAPHIC COMMAfFULL STOPvKATAKANA LETTER AbEbHAbEbIbObUcIbKAbEbIbObUcMAbEbIbObUcNaAbEbI",
  "bObUcObRAbEbIbObUcSAbEbIbMALL AbEbIbObTUcUbYAbObUhObUcTAbEbIbObUcUbWAbOcYAbObUjMIDDLE DOT",
  "kSEMI-VOICED SOUND MARKwVOICED SOUND MARKs-HIRAGANA PROLONGED SOUND MARKznLEFT CORNER BRACKET",
  "pWARDS ARROWpRIGHT CORNER BRACKETpWARDS ARROWqUPWARDS ARROWnWHITE CIRCLEuMBURGERgMERa AND PICK",
  "eSICKLEgWRENCHoSAbTER FACEkND WITH INDEX AND MIDDLE FINGERS CROSSEDzbFINGER AND THUMB CROSSED",
  "zlBAGbLLeSHAKEgGUL CHOSEONG CEONGCHIEUMCHIEUCHgIEUCfSIOSdSANGCIEUCfSIOStHIEUCHa-HIEUHfKHIEUKH",
  "mTUEUMCHIEUCHgIEUCfSIOSdSANGCIEUCfSIOSqIEUCa-IEUNGlFILLERgHIEUHa-SIOSkIEUNGa-CHIEUCHgIEUC",
  "fHIEUHfKIYEOKgMIEUMfPANSIOSgHIEUPHgIEUPfRIEULfSIOSeTHIEUTHgIKEUTmKAPYEOUNMIEUMfPHIEUPHgIEUP",
  "fRIEULfSSANGPIEUPrHIEUKHgIYEOKa-TIKEUTnMIEUMa-KIYEOKgPIEUPfSIOSeTIKEUTmNIEUNa-CIEUCfHIEUH",
  "fKIYEOKgPIEUPfSIOSeTIKEUTmPANSIOSgHIEUPHa-HIEUHfPIEUPmIEUPa-CHIEUCHgIEUCfHIEUHfKHIEUKHgIYEOK",
  "gNIEUNfPHIEUPHhSIOSa-CIEUCfKIYEOKgPIEUPfTHIEUTHgIKEUTkSANGSIOSjTHIEUTHgIKEUTmRIEULa-CIEUC",
  "fHIEUHfKAPYEOUNPIEUPmHIEUKHgIYEOKgMIEUMfNIEUNfPIEUPfSIOSdSANGKIYEOKgPIEUPfTIKEUTlTIKEUTmSIOS",
  "a-CHIEUCHgIEUCfHIEUHfIEUNGfKHIEUKHgIYEOKgMIEUMfNIEUNfPHIEUPHgIEUPa-KIYEOKmRIEULfSSANGSIOS",
  "jTHIEUTHgIKEUTkSANGCIEUCa-HIEUHlHIEUHfIEUNGfKIYEOKgNIEUNfPIEUPfRIEULfSIOSa-PIEUPkTHIEUTHgIKEUT",
  "gYEORINHIEUHqTHIEUTHgIKEUTa-CIEUCfKIYEOKgMIEUMfPIEUPfRIEULfSIOSlYEORINHIEUHjSIEUNG",
  "rDOUBLE DOT TONE MARKuFILLERgJONGSEONG CHIEUCHgIEUCa-PIEUPfSSANGPIEUPqHIEUHa-MIEUMfNIEUNfPIEUP",
  "fRIEULlIEUNGa-KHIEUKHgIYEOKgSSANGKIYEOKrKAPYEOUNMIEUMfPHIEUPHgIEUPfRIEULmHIEUKHgIYEOKa-CHIEUCH",
  "hHIEUHfKHIEUKHhNIEUNfPIEUPfRIEULfSIOSa-KIYEOKsMIEUMa-CHIEUCHgIEUCfHIEUHfKIYEOKgNIEUNfPANSIOS",
  "gIEUPa-SIOSkRIEULfSIOSdSANGNIEUNfSIOSpNIEUNa-CHIEUCHgIEUCfHIEUHfKIYEOKgPANSIOShRIEULfSIOS",
  "eTHIEUTHgIKEUTmPANSIOSa-KAPYEOUNPIEUPnPIEUPmHIEUPHa-PIEUPfSIOSeTHIEUTHoIEUPa-CHIEUCHgIEUC",
  "fHIEUHfMIEUMfPHIEUPHhRIEULa-PHIEUPHnSIOSa-TIKEUTlTIKEUTmRIEULa-HIEUHfKAPYEOUNPIEUPmHIEUKH",
  "gIYEOKa-HIEUHfSIOSlMIEUMa-HIEUHfKIYEOKgSIOSkNIEUNfPANSIOSgHIEUPHgIEUPa-HIEUHfPHIEUPHhSIOS",
  "eTIKEUTmSIOSdSANGKIYEOKgSIOSjTHIEUTHgIKEUTa-HIEUHmYEORINHIEUHa-HIEUHpSIEUNGoSIOSa-CHIEUCHgIEUC",
  "fHIEUHfKAPYEOUNPIEUPmIYEOKgMIEUMfPANSIOSgIEUPfRIEULfTHIEUTHgIKEUTkSANGCIEUCfIEUNGfKIYEOKgMIEUM",
  "fNIEUNfPIEUPfRIEULa-KHIEUKHnSIOSa-KIYEOKgTIKEUTlTIKEUTa-PIEUPmYESIEUNGnTHIEUTHgIKEUTa-CHIEUCH",
  "gIEUCfKIYEOKgPIEUPfRIEULfSIOSa-KIYEOKlTHIEUTHoYEORINHIEUHjSIEUNGa-HIEUHfKHIEUKHgIYEOKgMIEUM",
  "fPANSIOShSIOSdSANGKIYEOKzeUNGSEONG Aa-EUcObUcEbRAEAa-AbEaOcIbUhEaOa-EUcObUdUa-AbEaObUcObU",
  "eFILLERgIa-AaRAEAfEUcIbOa-IdUbYAa-OcEcEaOcObUeOa-EaOcOa-IdUbYAaEcEaOeEcSSANGARAEAkUa-AaEcEO-EU",
  "fI-IdUbYEaOfWAaEcEaOcIcYAa-ObUbYOdEcEaOa-ObUbYAfIa-UdOa-AaEcEOcIbObYAaEcEOfUa-AaEcEaOcIbObUbYE",
  "aOqLETTER AaEbRAEAaEgCHIEUCHgIEUCfEaObUcHIEUHfIaEUNGfKAPYEOUNMIEUMfPHIEUPHgIEUPfSSANGPIEUP",
  "rHIEUKHgIYEOKa-SIOSlMIEUMa-PANSIOSgIEUPfSIOSkNIEUNa-CIEUCfHIEUHfPANSIOShSIOSeTIKEUTmOaE",
  "cPANSIOSgHIEUPHgIEUPa-CIEUCfKIYEOKgSIOSa-KIYEOKgTIKEUTlTHIEUTHgIKEUTmRIEULa-HIEUHfKIYEOKa-SIOS",
  "lMIEUMfPANSIOSgHIEUPHgIEUPa-SIOSkSIOSeTHIEUTHgIKEUTgYEORINHIEUHrSIOSa-CIEUCfKIYEOKgNIEUNfPIEUP",
  "fTIKEUTkSANGCIEUCfHIEUHfIEUNGfKIYEOKgNIEUNfPIEUPfSIOSeTIKEUTlTHIEUTHgIKEUTgUbWAaEcEaOcIcYAaEcE",
  "aOaRINHIEUHjSIEUNGa-PANSIOShSIOSmIbOa-IbYAaEfUa-IbYEaOnSINGLE DOT TONE MARKxZHOU NUMERAL EIGHT",
  "fFIVEdOUReNINEeONEdSEVENeIXdTENcHIRTYeREEeWENTYeOrIFI ROHINGYA DIGIT EIGHTfFIVEdOUReNINEeONE",
  "dSEVENeIXdTHREEeWOdZEROkLETTER AbBAcCAcDAbDAdFAcGAcHAcJAcKAbHAcINNA WAcYAiLAcMAcNAbGAcYAdPAcRA",
  "bRAdSAbHAdTAbTAdVAcWAcYAcZAjMARK NA KHONNAjSAKINkSIGN HARBAHAYiTAHALAeNAcSSIkVOWEL AbEbIbObU",
  "uUNOO LETTER AbBAcDAcGAcHAcIbKAcLAcMAcNAbGAdPAcRAcSAcTAcUbWAcYAjSIGN PAMUDPODnVOWEL SIGN IbU",
  "sPPY PERSON RAISING ONE HANDzcRD DISKhTCHING CHICKlRAN LETTER ALEPHeYNdBETHeDALETH-RESHlGIMEL",
  "fHEaTHeKAPHeLAMEDHgMEMdNUNdPEcQOPHeSADHEdMEKHfHINeTAWcETHeWAWdYODHeZAYNlNUMBER FIVEeONE",
  "a HUNDREDlTENcWENTYtEADPHONEfSTONEa GRAVEYARD SYMBOLxR-NO-EVIL MONKEYpT DECORATIONkHANDS",
  "fWITH ARROWfRIBBONgTIP ON THE LEFTxVY AMPERSAND ORNAMENTrRROW SHAFT WIDTH ONEa HALFeTHIRD",
  "jTWO THIRDSzcSTERISKiBALLOT XhLACK CURVED DOWNWARDS AND RIGHTWARDS ARROW",
  "zfUPWARDS AND RIGHTWARDS ARROWzkHEARTg-FEATHERED NORTH EAST ARROWqRIGHTWARDS ARROW",
  "qSOUTH EAST ARROWzhCHECK MARKhVRON SNOWFLAKEqIRCLEa WITH CIRCLE INSIDE",
  "nSTROKE AND TWO DOTS ABOVEzgD SALTIREoONCAVE-POINTED BLACK RIGHTWARDS ARROW",
  "znDASHED TRIANGLE-HEADED RIGHTWARDS ARROWznIVISION SIGNmOLLAR SIGN",
  "jUBLE COMMA QUOTATION MARK ORNAMENTzeTURNED COMMA QUOTATION MARK ORNAMENT",
  "zqWNWARDS ARROW WITH EQUILATERAL ARROWHEADvLARGE EQUILATERAL ARROWHEAD",
  "zxEIGHT POINTED BLACK STARkPINWHEEL STARnRECTILINEAR BLACK STARzfSPOKED ASTERISK",
  "pTEARDROP-SPOKED PROPELLER ASTERISKzoQUALS SIGNkXCLAMATION MARK ORNAMENTiSYMBOL",
  "xFIVE POINTED BLACK STARsSPOKED ASTERISKtOUR BALLOON-SPOKED ASTERISKzdGREEK CROSS",
  "lHEART EXCLAMATION MARK ORNAMENTzfORIZONTAL FILLpINTERROBANG ORNAMENTuLARGE CIRCLEkTIN CROSS",
  "kEFT-POINTING ANGLE BRACKET ORNAMENTqQUOTATION MARK ORNAMENT",
  "zoWARDS ARROW WITH EQUILATERAL ARROWHEADvLARGE EQUILATERAL ARROWHEADzwIGATURE OPEN ET ORNAMENT",
  "yOW DOUBLE COMMA QUOTATION MARK ORNAMENTzlSINGLE COMMA QUOTATION MARK ORNAMENT",
  "zmER RIGHT-SHADOWED WHITE RIGHTWARDS ARROWzsMINUS SIGNjULTIPLICATION XqNORTH EAST ARROW",
  "fPOINTING BUDdVINE LEAFxWEST POINTING BUDdVINE LEAFzeOPEN CENTRE CROSSqUTLINED BLACK STAR",
  "sVAL WITH OVAL INSIDEvPLUS SIGNjRIGHT-POINTING ANGLE BRACKET ORNAMENTqQUOTATION MARK ORNAMENT",
  "zoWARDS ARROWa WITH EQUILATERAL ARROWHEADvLARGE EQUILATERAL ARROWHEAD",
  "zxOUND-TIPPED RIGHTWARDS ARROWzeSALTIREfNS-SERIF INTERROBANG ORNAMENT",
  "zfCRIPT LIGATURE ET ORNAMENTzbINGLE COMMA QUOTATION MARK ORNAMENT",
  "zeTURNED COMMA QUOTATION MARK ORNAMENTzqX POINTED BLACK STARsSPOKED ASTERISKsOUTH EAST ARROW",
  "fPOINTING BUDdVINE LEAFxWEST POINTING BUDdVINE LEAFzdPARKLEhTEARDROP-SHANKED RIGHTWARDS ARROW",
  "xPOKED ASTERISKiPINWHEEL ASTERISKzhRIANGLE-HEADED RIGHTWARDS ARROWzgWELVE POINTED BLACK STAR",
  "kPINWHEEL STARzdUPPER RIGHT-SHADOWED WHITE RIGHTWARDS ARROW",
  "zqWARDS ARROW WITH EQUILATERAL ARROWHEADvLARGE EQUILATERAL ARROWHEADzvVERTICAL BAR",
  "mWEDGE-TAILED RIGHTWARDS ARROWzdHITE CIRCLEgDOWN-POINTING TRIANGLEwSQUARE",
  "lIDE-HEADED RIGHTWARDS ARROWzhBREW ACCENT ATNAH HAFUKHmDARGAeEHIeETNAHTAhGERESHa MUQDAMkSHAYIM",
  "jILUYeMAHAPAKHhERKHAa KEFULAmUNAHfOLEdPASHTAeZERfQADMAdRNEY PARAlREVIAfSEGOLeHALSHELET",
  "kTELISHA GEDOLAgQETANAmVIReIPEHAgYERAH BEN YOMOmTIVfZAQEF GADOLfQATANjRQAeINORmLETTER ALEF",
  "a WITH MAPIQfPATAHfQAMATSoTERNATIVE AYINePLUS SIGNuYINeBETa WITH DAGESHgRAFEnDALET",
  "a WITH DAGESHrFINAL KAFa WITH DAGESHpMEMdNUNdPEa WITH DAGESHoTSADIlGIMELa WITH DAGESHrHE",
  "a WITH MAPIQlTdKAFa WITH DAGESHgRAFEnLAMEDa WITH DAGESHrMEMa WITH DAGESHpNUNa WITH DAGESHpPE",
  "a WITH DAGESHgRAFEmQOFa WITH DAGESHpRESHa WITH DAGESHqSAMEKHa WITH DAGESHrHINa WITH DAGESH",
  "a AND SHIN DOThIN DOTsSHIN DOThIN DOTrTAVa WITH DAGESHoETa WITH DAGESHoSADIa WITH DAGESHrVAV",
  "a WITH DAGESHgHOLAMoWIDE ALEFeDALETfFINAL MEMjHEcKAFdLAMEDfRESHeTAViYODa WITH DAGESHgHIRIQ",
  "oZAYINa WITH DAGESHxIGATURE ALEF LAMEDkYIDDISH DOUBLE VAVdYODkVAV YODhYOD YOD PATAH",
  "zfMARK LOWER DOTjMASORA CIRCLEnUPPER DOToPOINT DAGESH OR MAPIQpHATAF PATAHfQAMATSgSEGOLkIRIQ",
  "eOLAMa HASER FOR VAVtJUDEO-SPANISH VARIKAuMETEGfPATAHfQAMATSa QATANlUBUTSgRAFEeSEGOLeHEVA",
  "dIN DOThIN DOThTSEREkUNCTUATION GERESHdSHAYIMjMAQAFfNUN HAFUKHAlPASEQfSOF PASUQvYOD TRIANGLE",
  "rDGEHOGgLICOPTERhLSCHREIBER PAUSE SYMBOLxM SYMBOLhET WITH WHITE CROSSvNTAIGANA LETTER A-1b2b3",
  "bWOeE-1b2b3b4b5b6dHA-1a0b1c2b3b4b5b6b7b8b9dE-1b2b3b4b5b6b7dI-1b2b3b4b5b6b7dO-1b2b3b4b5b6b7b8",
  "dU-1b2b3eI-1b2b3b4dKA-1a0b1c2b3b4b5b6b7b8b9bKEeE-1b2b3b4b5b6dI-1b2b3b4b5b6b7b8dO-1b2b3bKIeU-1",
  "b2b3b4b5b6b7eMA-1b2b3b4b5b6b7dE-1b2bMAeI-1b2b3b4b5b6b7dO-1b2b3b4b5b6dU-1b2b3b4eN-MU-MO-1b2iA-1",
  "b2b3b4b5b6b7b8b9dE-1b2b3b4b5b6bKOeI-1b2b3b4b5b6b7bTEeO-1b2b3b4b5dU-1b2b3eO-1b2b3dRA-1b2b3b4",
  "dE-1b2b3b4dI-1b2b3b4b5b6b7dO-1b2b3b4b5b6dU-1b2b3b4b5b6eSA-1b2b3b4b5b6b7b8dE-1b2b3b4b5dI-1b2b3",
  "b4b5b6dO-1b2b3b4b5b6b7dU-1b2b3b4b5b6b7b8eTA-1b2b3b4dE-1b2b3b4b5b6b7b8b9dI-1b2b3b4b5b6b7dO-1b2",
  "b3b4b5b6bRAeU-1b2b3b4bTOfU-1b2b3b4b5dWA-1b2b3b4b5dE-1b2b3b4dI-1b2b3b4b5dO-1b2b3b4b5b6b7eYA-1b2",
  "b3b4b5bYOeO-1b2b3b4b5b6dU-1b2b3b4uRBbMITIAN CONJUGATE MATRIXyXAGRAM FOR ABUNDANCE",
  "iFTER COMPLETIONpPPROACHiBEFORE COMPLETIONqITING THROUGHnREAKTHROUGHmCOMING TO MEETmNFLICT",
  "fTEMPLATIONnDARKENING OF THE LIGHTvECREASEgLIVERANCEjVELOPMENTkIFFICULTY AT THE BEGINNING",
  "zSPERSIONjURATIONiENTHUSIASMkFELLOWSHIPjOLLOWINGjGATHERING TOGETHERrRACEdEAT POSSESSIONiWER",
  "eREPONDERANCEnTAMINGmHOLDING TOGETHERqINCREASEgFLUENCEhNER TRUTHiOCENCEjLIMITATIONkMODESTY",
  "fUTH CORNERSnOBSTRUCTIONkPPOSITIONhRESSIONkPEACEeROGRESShUSHING UPWARDoRETREATeURNeVOLUTION",
  "kSMALL PREPONDERANCEnTAMINGlPLITTING APARToTANDSTILLkTHE ABYSMAL WATERmRMYcOUSING THUNDER",
  "qCAULDRONhLINGING FIREmREATIVE HEAVENpFAMILYgGENTLE WINDlJOYOUS LAKElKEEPING STILL MOUNTAIN",
  "wMARRYING MAIDENpRECEPTIVE EARTHpWANDERERhELLhREADINGiWAITINGgORK ON THE DECAYED",
  "tYOUTHFUL FOLLYzbIBISCUSgGH BRIGHTNESS SYMBOLrOCTET PRESETmVOLTAGE SIGNn-HEELED SHOE",
  "lSPEED TRAINa WITH BULLET NOSEzgKING BOOTjNDU TEMPLEkPPOPOTAMUSkRAGANA DIGRAPH YORI",
  "mITERATION MARKoLETTER AaRCHAIC WUcYEkBAbEbIbObUcDAbEbIbObUcEbGAbEbIbObUcHAbEbIbObUcIbKAbEbIbO",
  "bUcMAbEbIbObUcNaAbEbIbObUcObPAbEbIbObUcRAbEbIbObUcSAbEbIbMALL AbEbIbKAbEcObTUcUbWAbEbIbOcYAbO",
  "bUhObUcTAbEbIbObUcUbVUcWAbEbIbOcYAbObUcZAbEbIbObUjVOICED ITERATION MARKzdSTORIC SITEmOCHOdLE",
  "bLOW QUILT SQUARE ORNAMENTa IN BLACK SQUAREzrMOTHETICiNEY POTeBEEgOKcPbRIZONTAL BAR",
  "cLACK HEXAGONhOCTAGONnELLIPSISiLINE EXTENSIONoMALE WITH STROKE SIGNvONE EIGHTH BLOCK-1358e2b3",
  "b4b5b6b7sSCAN LINE-1b3b7b9lTAB KEYeULATIONa SETdWITH JUSTIFICATIONzdRAFFIC LIGHTvSEa FACE",
  "eRACINGkSPITALgT BEVERAGEiDOGdPEPPERgSPRINGSiELdURGLASSa WITH FLOWING SANDySEa BUILDINGaS",
  "jWITH GARDENqRYVNIA SIGNlTaJbScUGGING FACEkNDRED POINTS SYMBOLtSHED FACEjTcYGIEAePHENa BULLET",
  "gWITH DIAERESISp-MINUSgATION POINToODIASTOLEkSTERESIS SYMBOLrI LOVE YOU HAND SIGNtCE CREAMeUBE",
  "eHOCKEY STICK AND PUCKvSKATEiDENTICAL TOa AND SLANTED PARALLELxWITH DOT ABOVEsFICATION CARD",
  "qOGRAPHIC ANNOTATION BOTTOM MARKlEARTH MARKkFIRST MARKjOUR MARKfTH MARKlHEAVEN MARK",
  "lLINKING MARKmMAN MARKhIDDLE MARKlONE MARKiREVERSE MARKmSECOND MARKlTHIRD MARKiREE MARK",
  "jOP MARKhWO MARKtCLOSING MARKlOMMAfDEPARTING TONE MARKrSCRIPTION CHARACTER ABOVE TO BELOW",
  "fMIDDLE AND BELOWzFULL SURROUNDnLEFT TO MIDDLE AND RIGHTqRIGHTnOVERLAIDiSURROUND FROM ABOVE",
  "fBELOWfLEFTdOWER LEFTkUPPER LEFTeRIGHTzwENTERING TONE MARKsFULL STOPjHALF FILL SPACE",
  "pITERATION MARKoLEVEL TONE MARKpNUMBER ZEROlRISING TONE MARKqSPACEfTALLY MARK FIVEdOUReONE",
  "dTHREEeWOnELEGRAPH LINE FEED SEPARATOR SYMBOLzbSYMBOL FOR APRILeUGUSTgDAY EIGHTaEENhLEVEN",
  "gFIFTEENfVEdOURaTEENiNINEaTEENiONEdSEVENaTEENiIXaTEENhTENcHIRTEENdYa-ONEiREEeWELVEdNTYa-EIGHT",
  "fFIVEdOUReNINEeONEdSEVENeIXdTHREEeWOiOgECEMBERiFEBRUARYiHOUR EIGHTaEENhLEVENgFIFTEENfVEdOUR",
  "aTEENiNINEaTEENiONEdSEVENaTEENiIXaTEENhTENcHIRTEENgREEeWELVEdNTYa-FOUReONEdTHREEeWOiOdZERO",
  "jJANUARYgULYcNEeMARCHdYdNOVEMBERiOCTOBERhSEPTEMBERzfVARIATION INDICATORzfMAGE OF",
  "a OR APPROXIMATELY EQUAL TOzhPaERIAL ARAMAIC LETTER ALEPHeYINeBETHeDALETHgGIMELfHEaTHeKAPH",
  "eLAMEDHgMEMdNUNdPEcQOPHeRESHeSADHEdMEKHfHINeTAWcETHeWAWdYODHeZAYINmNUMBER ONEa HUNDRED",
  "hTHOUSANDmTENa THOUSANDlHREEeWENTYeOkSECTION SIGNzdNBOX TRAYiCOMING ENVELOPEmPLETE INFINITY",
  "qREASE FONT SIZE SYMBOLrS AShMENThDaEXa POINTING AT THE VIEWERzIAN RUPEE SIGN",
  "nC SIYAQ ALTERNATE LAKH MARKtFRACTION ONE HALFeQUARTERlTHREE QUARTERSxLAKH MARK",
  "jNUMBER ALTERNATE ONEdTEN THOUSANDlWOnEIGHTa HUNDREDhTHOUSANDjYa THOUSANDpFIFTYa THOUSANDmVE",
  "a HUNDREDhTHOUSANDmORTYa THOUSANDmURa HUNDREDhTHOUSANDnKARORaANhLAKHaANgNINEa HUNDREDhTHOUSAND",
  "jTYa THOUSANDpONEa HUNDREDhTHOUSANDmPREFIXED EIGHTfFIVEdOUReNINEeONEdSEVENeIXdTHREEeWOmSEVEN",
  "a HUNDREDhTHOUSANDjTYa THOUSANDpIXa HUNDREDhTHOUSANDjTYa THOUSANDoTENa THOUSANDlHIRTY",
  "a THOUSANDnREEa HUNDREDhTHOUSANDnWENTYa THOUSANDnOa HUNDREDhTHOUSANDtPLACEHOLDERlRUPEE MARK",
  "uFINITYa NEGATED WITH VERTICAL BARzgORMATION DESK PERSONlSEPARATOR FOUReONEdTHREEeWOmOURCE",
  "qHIBIT ARABIC FORM SHAPINGtSYMMETRIC SWAPPINGyPUT SYMBOL FOR LATIN CAPITAL LETTERSpLETTERS",
  "hSMALL LETTERStNUMBERShSYMBOLSwSCRIPTIONAL PAHLAVI LETTER ALEPHfBETHeDALETHgGIMELfHEaTHeKAPH",
  "eLAMEDHgMEM-QOPHiNUNdPEcSADHEdMEKHfHINeTAWcETHeWAW-AYIN-RESHnYODHeZAYINmNUMBER FOUReONE",
  "a HUNDREDhTHOUSANDmTENcHREEeWENTYeOqRTHIAN LETTER ALEPHeYINeBETHeDALETHgGIMELfHEaTHeKAPH",
  "eLAMEDHgMEMdNUNdPEcQOPHeRESHeSADHEdMEKHfHINeTAWcETHeWAWdYODHeZAYINmNUMBER FOUReONEa HUNDRED",
  "hTHOUSANDmTENcHREEeWENTYeOzfERTION SYMBOLoTEGRALa AROUND A POINT OPERATORwVERAGE WITH SLASH",
  "sEXTENSIONjWITH DOUBLE STROKEnINTERSECTIONmLEFTWARDS ARROW WITH HOOKzOVERBARhTIMES SIGN",
  "kUNDERBARgIONpRCALATEgIOR PRODUCTlLINEAR ANNOTATION ANCHORgSEPARATORjTERMINATOR",
  "zcOCKED FEMALE AND MALE SIGNzcROBANGgSECTIONa ABOVE BAR ABOVE UNIONpUNION",
  "lBESIDE AND JOINED WITH INTERSECTIONzkWITH DOTdLOGICAL ANDlOVERBARxVERSE BULLETgCHECK MARK",
  "fER BOARD FILLsDOWNWARDS ARROW WITH TIP LEFTWARDSzjMEDIUM SHADEmWHITE CIRCLE",
  "pTED EXCLAMATION MARKqINTERROBANGlLAZY SfOW KAVYKAa WITH KAVYKA ABOVEzdOHM SIGNiPENTAGRAM",
  "jQUESTION MARKnUNDERTIEoISIBLE PLUSeSEPARATORjTIMESoZAKAYA LANTERNpJACK-O-LANTERN",
  "mPANESE BANK SYMBOLlCASTLEgDOLLSfGOBLINgINDUSTRIAL STANDARD SYMBOLzbOGREePOST OFFICE",
  "lSYMBOL FOR BEGINNERzbRbVANESE CONSONANT SIGN CAKRAfKERETfPENGKALwDIGIT EIGHTfFIVEdOUReNINE",
  "eONEdSEVENeIXdTHREEeWOdZEROkLEFT RERENGGANmTTER AaIcBAa MURDAiCAa MURDAiDAa MAHAPRANAlDA",
  "a MAHAPRANAnEbGAa MURDAiHAcIa KAWIfIcJAa MAHAPRANAmKAa MURDAfSASAKiLAcMAcNAa MURDAhGAa LELET",
  "a RASWADIqYAa MURDAjObPAa CEREKfMURDAiRAa AGUNGiSAa MAHAPRANAiURDAiTAa MURDAhTAa MAHAPRANAnU",
  "bWAcYAjPADA ADEGa ADEGiNDAPfISEN-ISENjLINGSAfUHURdNGSIgMADYAfPANGKATgISELEHhTIRTA TUMETES",
  "nWINDUiNGKONdRANGKEPlRIGHT RERENGGANpSIGN CECAKa TELUkLAYARfPANYANGGAjWIGNYAN",
  "mTURNED PADA PISELEHtVOWEL SIGN DIRGA MUREkPEPETfSUKUa MENDUTlTALINGeRUNGfOLONGgWULUa MELIK",
  "zeEANSeIGSAW PUZZLE PIECEsOINcYSTICKhUGGLINGgNOcPITERhKAABAdITHI ABBREVIATION SIGNrDANDA",
  "eOUBLE DANDAfSECTION MARKtENUMERATION SIGNqLETTER AaAbIbUcBAbHAdCAbHAdDAbDAbDHAdHAdHAdEbGAbHA",
  "dHAcIaIcJAbHAdKAbHAdLAcMAcNAbGAcNAcYAdObPAbHAdRAbHAdSAbHAcSAdTAbHAcTAbHAeUaUcVAcYAjNUMBER SIGN",
  "a ABOVErSECTION MARKlIGN ANUSVARAiCANDRABINDUlNUKTAfVIRAMAeSARGAmVOWEL SIGN AAbIbUcEbIaIcObUaU",
  "cVOCALIC RzNGAROOeXI RADICAL AGAINeNDcRRIVEdOWeXEdBADGEReMBOOfEANdIGbRDcTTERfLACKdOODdUEdOAT",
  "cDYcLT OF CLOTHlNEcWcRANCHeISTLEfUSHfCARTcULDRONgVEdHILDeITYdLANbWcIFFdOTHESgOLORdMPAREfRPSE",
  "eVERdWdDEATHdERdIPPEReSHbTINGUISHjVINATIONjO NOTeGbORcTaTED CLIFFfTENTjUBLE XgWN BOXhRAGONeUM",
  "cYdEARaTHdTcIGHTeMBROIDERYjNCLOSUREhTEReVENaINGgYEdFACEcNGcTHERfEATHERgIELDdGHTdREcSHdLUTEdY",
  "cOOTdRAGRANTgOGdURdGATEdHOSTeOa SLOWLYhLDdRAINcSSfHAIRcLBERDeF TREE TRUNKnNDdEADbRTdMP",
  "dIDING ENCLOSUREpOOKcRNbSEfICEcNCHcSECTgJADEcRdKNIFEfLACKcMEdEAFbTHERfEKcGSdIDbFEcNEdONG",
  "a STRIDElMANcEATcLONeILLETeNISTERhOONcRNINGeTAReUNDbTAINfTHfNETcOSEcTdOLDcNEaSELFgPEN BOXgPOSE",
  "gPIGcLOWdOWEReRIVATEfOFOUNDiRAINcPbTcEDcICEcGHT OPEN BOXmVEReOOFdUNdSACRIFICIAL WINEoLTcY",
  "cCHOLARfRIPTfEALcCONDeEbLFdHEEPcLLdOOTcRT TAILED BIRDkHREADlICKNESSgLKdKINdLASHcVEdICEeMALL",
  "eNOUTeOUNDePEARcECHeIRITeOONdROUTfQUAREfTANDdEAMcPcONEcPaPINGhUNcWEETfTABLEdLLcNNED LEATHERnEN",
  "cIGERdLEdONGUEeOTHeRACKdEEcIPODfURBANdTLEfWOa HANDSjUSEdVALLEYfILLAGEhWALKa ENCLOSUREmTER",
  "eEAPONeSTdHEATdITEeINDbEdOMANdRKdRAPcONGfYELLOWsNADA AI LENGTH MARKoDIGIT EIGHTfFIVEdOUReNINE",
  "eONEdSEVENeIXdTHREEeWOdZEROkLENGTH MARKjTTER AaAbIbUcBAbHAdCAbHAdDAbDAbHAdHAdEaEcFAcGAbHAdHAcI",
  "aIcJAbHAdKAbHAdLAbLAbLAeMAcNAaKAARA POLLUmGAcNAcYAdOaOcPAbHAdRAbRAdSAbHAcSAdTAbHAcTAbHAeUaUcVA",
  "bOCALIC LaLcRaRkYAjSIGN ANUSVARAhVAGRAHAiCANDRABINDUlJIHVAMULIYAlNUKTAfSIDDHAM",
  "gPACING CANDRABINDUtUPADHMANIYAlVIRAMAeSARGAmVOWEL SIGN AAbIbUcEaEcIaIcOaOcUaUcVOCALIC LaLcRaR",
  "zcTAKANA DIGRAPH KOTOmITERATION MARKoLETTER AaRCHAIC EbWUcYEbIkBAbEbIbObUcDAbEbIbObUcEbGAbEbI",
  "bObUcHAbEbIbObUcIbKAbEbIbObUcMAbEbIaNNAN NASALIZED TONE-1b2b3b4b5b7b8qTONE-2b3b4b5b7b8mObUcNaA",
  "bEbIbObUcObPAbEbIbObUcRAbEbIbObUcSAbEbIbMALL AbEbHAbEbIbObUcIbKAbEbUcMUcNaUcObRAbEbIbObUcSIbU",
  "cTObUcUbWAbEbIbOcYAbObUhObUcTAbEbIbObUcUbVAbEbIbObUcWAbEbIbOcYAbObUcZAbEbIbObUjMIDDLE DOT",
  "kVOICED ITERATION MARKw-HIRAGANA DOUBLE HYPHENnPROLONGED SOUND MARKuSEMI-VOICED SOUND MARK",
  "wVOICED SOUND MARKziYAH LI DIGIT EIGHTfFIVEdOUReNINEeONEdSEVENeIXdTHREEeWOdZEROkLETTER AbBAcCA",
  "cDAcGAcHAbTAdIbKAbHAdLAcMAcNAbGAcYAdOEbOcPAbHAdRAcSAbHAdTAbHAdVAcWAcYAcZAjSIGN CWIdSHYA",
  "jTONE CALYAa PLOPHUmPLOPHUlVOWEL EaEcObUaEqELVIN SIGNjYaBOARDa AND MOUSEpCAP TEN",
  "jHAROSHTHI DIGIT FOUReONEdTHREEeWOjFRACTION ONE HALFrLETTER AbBAbHAdCAbHAdDAbDAbHAdHAdGAbHAdHA",
  "cJAcKAbHAcKAdLAcMAcNAbNAcYAdPAbHAdRAcSAbHAcSAdTAbHAcTAbHAcTAbHAfVAbHAdYAcZAjNUMBER ONE HUNDRED",
  "hTHOUSANDmTENcWENTYnPUNCTUATION CIRCLEfRESCENT BARmDANDAeOTbUBLE DANDAmLINESeOTUSfMANGALAM",
  "iSMALL CIRCLEySIGN ANUSVARAiBAR ABOVEjCAUDAfDOT BELOWhUBLE RING BELOWrVISARGAmVIRAMA",
  "fOWEL LENGTH MARKlSIGN EbIbObUbVOCALIC RzeITAN SMALL SCRIPT CHARACTER-18B00b1b2b3b4b5b6b7b8b9",
  "bAbBbCbDbEbFc10b1b2b3b4b5b6b7b8b9bAbBbCbDbEbFc20b1b2b3b4b5b6b7b8b9bAbBbCbDbEbFc30b1b2b3b4b5b6",
  "b7b8b9bAbBbCbDbEbFc40b1b2b3b4b5b6b7b8b9bAbBbCbDbEbFc50b1b2b3b4b5b6b7b8b9bAbBbCbDbEbFc60b1b2b3",
  "b4b5b6b7b8b9bAbBbCbDbEbFc70b1b2b3b4b5b6b7b8b9bAbBbCbDbEbFc80b1b2b3b4b5b6b7b8b9bAbBbCbDbEbFc90",
  "b1b2b3b4b5b6b7b8b9bAbBbCbDbEbFcA0b1b2b3b4b5b6b7b8b9bAbBbCbDbEbFcB0b1b2b3b4b5b6b7b8b9bAbBbCbDbE",
  "bFcC0b1b2b3b4b5b6b7b8b9bAbBbCbDbEbFcD0b1b2b3b4b5b6b7b8b9bAbBbCbDbEbFcE0b1b2b3b4b5b6b7b8b9bAbB",
  "bCbDbEbFcF0b1b2b3b4b5b6b7b8b9bAbBbCbDbEbFdC00b1b2b3b4b5b6b7b8b9bAbBbCbDbEbFc10b1b2b3b4b5b6b7b8",
  "b9bAbBbCbDbEbFc20b1b2b3b4b5b6b7b8b9bAbBbCbDbEbFc30b1b2b3b4b5b6b7b8b9bAbBbCbDbEbFc40b1b2b3b4b5",
  "b6b7b8b9bAbBbCbDbEbFc50b1b2b3b4b5b6b7b8b9bAbBbCbDbEbFc60b1b2b3b4b5b6b7b8b9bAbBbCbDbEbFc70b1b2",
  "b3b4b5b6b7b8b9bAbBbCbDbEbFc80b1b2b3b4b5b6b7b8b9bAbBbCbDbEbFc90b1b2b3b4b5b6b7b8b9bAbBbCbDbEbF",
  "cA0b1b2b3b4b5b6b7b8b9bAbBbCbDbEbFcB0b1b2b3b4b5b6b7b8b9bAbBbCbDbEbFcC0b1b2b3b4b5b6b7b8b9bAbBbC",
  "bDbEbFcD0b1b2b3b4b5pFILLERyMER CURRENCY SYMBOL RIELuDIGIT EIGHTfFIVEdOUReNINEeONEdSEVENeIX",
  "dTHREEeWOdZEROkINDEPENDENT VOWEL LYaYdQAAbIbQbUcEbIaIcOO TYPE ONEdTWOlUaKbUaVeRYaYvLETTER BA",
  "cCAbHAbOcOcDAbOcHAcKAbHAbOcOcLAbOcMOcNGOcNOcObYOdPHAbOcOcQAcROcSAbHAcSOdTAbHAbOcObTHAbOeVOcYO",
  "jSIGN AHSDAeTTHACANhVAKRAHASANYAnBANTOCeRIYOOSANiTHAMASATjEYYALgCAMNUC PII KUUHoOENGfKAKABAT",
  "gHANdOOMUUThLEK TOOhMUUSIKATOANlNIKAHIThPHNAEK MUANlREAHMUKgOBATfSAMYOK SANNYAnTOANDAKHIAT",
  "kRIISAPhVIRIAMgYUUKALEAPINTUrYMBOL BEI KOETeROCgUON KOETeROCiDAP KOETeROCe-BEI KOETeROC",
  "gUON KOETeROCiMUOY KOETeROCiPII KOETeROCgRAM KOETeROCmLEK ATTAK BEIcUONeMUOYePIIcRAMa-BEIcUON",
  "eMUOYePIIiSONnMUOY KOETeROCiPATHAMASATjII KOETeROCgRAM KOETeROCe-BEI KOETeROCgUON KOETeROC",
  "iMUOY KOETeROCiPII KOETeROCmTUTEYASATqVOWEL INHERENT AAbQlSIGN AAbEbIbUcEbIaEbIcOEbOcUaAbUcYaA",
  "bYrOJKI ABBREVIATION SIGNrDANDAeOUBLE DANDAfSECTION MARKtLETTER AaAbIbUcBAbBAcHAdCAbHAdDAbDA",
  "bDAcHAdHAdEbGAbGAcHAdHAcIbJAbJAdKAbHAdLAbLAdMAcNAbGAcNAcYAdObPAbHAdRAcSAcTAbHAcTAbHAeUbVAcYA",
  "jSECTION MARKlIGN ANUSVARAiNUKTAfSHADDAfUKUNfVIRAMAlVOWEL SIGN AAbIbUcEbIaIcObUmWORD SEPARATOR",
  "tUDAWADI DIGIT EIGHTfFIVEdOUReNINEeONEdSEVENeIXdTHREEeWOdZEROkLETTER AaAbIbUcBAbBAcHAdCAbHAdDA",
  "bDAbDAcHAdHAdEbGAbGAcHAdHAcIaIcJAbHAcJAdKAbHAdLAcMAcNAbGAcNAcYAdObPAbHAdRAbRAdSAbHAdTAbHAcTA",
  "bHAeUaUcVAcYAjSIGN ANUSVARAiNUKTAfVIRAMAlVOWEL SIGN AAbIbUcEbIaIcObUaUwIMONOeP SIGNgSSa MARK",
  "fING CAT FACE WITH CLOSED EYESzFACEa WITH CLOSED EYESlSMILING EYESzdTEcWIFRUITiNEELING PERSON",
  "nOTdOALAdREAN STANDARD SYMBOLvRONOSgL B BAR SYMBOLnAB COATfELdCROSSE STICK AND BALLvDDER",
  "dY BEETLEjNGUAGE TAGkO CANCELLATION MARKrDIGIT EIGHTfFIVEdOUReNINEeONEdSEVENeIXdTHREEeWOdZERO",
  "kELLIPSISiHO MOcNOfKO LAfLETTER BOcCOcDOcFO FAYcONdSUNGeTAMgHO SUNGeTAMgKHMU GOcNYOgO SUNGeTAM",
  "gOcLOa LINGdOOThMOcNGOcObYOdObPALI BHAdCHAdDDAbHAdHAdGHAdJHAdLLAdNNAcYAdTTAbHAiHO SUNGeTAMgO",
  "cROcSANSKRIT SHAcSAlO SUNGeTAMgTHO SUNGeTAMgOcWOcYOjNIGGAHITAjSEMIVOWEL SIGN LOcNYO",
  "rIGN PALI VIRAMAqTONE MAI CATAWAgEKcTHOcIlVOWEL SIGN AaAbIbMbYcEaIcIaIcMAI KANcONhObUaUcYaY",
  "pRGE BLUE CIRCLEgDIAMONDhSQUAREkROWN CIRCLEgSQUAREmCIRCLEgDOWN TACKjGREEN CIRCLEgSQUARE",
  "mLEFT TRIANGLE OPERATORwONE DOT OVER TWO DOTS PUNCTUATIONzeRING OVER TWO RINGS PUNCTUATION",
  "zjRANGE CIRCLEgDIAMONDhSQUAREnPURPLE CIRCLEgSQUAREnRED CIRCLEgSQUARE",
  "kTRIPLE VERTICAL BAR OPERATORzcWO DOTS OVER ONE DOT PUNCTUATION",
  "zeRINGS OVER ONE RING PUNCTUATIONzkUP TACKhYELLOW CIRCLEgSQUAREoR THANa OR EQUAL TOuI SIGN",
  "hST QUARTER MOONa SYMBOLgWITH FACEzTIN CAPITAL LETTER Aa WITH ACUTEfBREVEa AND ACUTEfDOT BELOW",
  "jGRAVEfHOOK ABOVEkTILDEpCARONeIRCUMFLEXa AND ACUTEfDOT BELOWjGRAVEfHOOK ABOVEkTILDEuDIAERESIS",
  "a AND MACRONtOT ABOVEa AND MACRONqBELOWhUBLE GRAVEmGRAVEfHOOK ABOVEkINVERTED BREVEoMACRON",
  "gOGONEKgRING ABOVEa AND ACUTEpBELOWkSTROKEgTILDElAbEa WITH ACUTEfMACRONnFRICAN DiLPHA",
  "eNGLICANA WkObUbVa WITH HORIZONTAL BARvYcBa WITH DOT ABOVEfBELOWjFLOURISHiHOOKeLINE BELOW",
  "kSTROKEgTOPBARmETAdROKEN LiCa WITH ACUTEfBARdCARONeEDILLAa AND ACUTEqIRCUMFLEXkDOT ABOVEjHOOK",
  "ePALATAL HOOKmSTROKEmHIcLOSED INSULAR GpONcUATRILLOa WITH COMMAuDa WITH CARONeEDILLA",
  "gIRCUMFLEX BELOWqDOT ABOVEfBELOWjHOOKeLINE BELOWkSHORT STROKE OVERLAYtMALL LETTER Z",
  "a WITH CARONyTROKEgTOPBARmZa WITH CARONnEa WITH ACUTEfBREVEfCARONeEDILLAa AND BREVEqIRCUMFLEX",
  "a AND ACUTEfDOT BELOWjGRAVEfHOOK ABOVEkTILDEjBELOWqDIAERESISiOT ABOVEfBELOWhUBLE GRAVEmGRAVE",
  "fHOOK ABOVEkINVERTED BREVEoMACRONa AND ACUTEfGRAVEqOGONEKgSTROKEgTILDEa BELOWrGYPTOLOGICAL AIN",
  "cLEFrNGcSHcTaHcZHa REVERSEDiWITH CARONoFa WITH DOT ABOVEjHOOKeSTROKEnGa WITH ACUTEfBREVEfCARON",
  "eEDILLAgIRCUMFLEXkDOT ABOVEjHOOKeMACRONgOBLIQUE STROKEoSTROKEmAMMAeHAcLOTTAL AbIbSTOPeUjH",
  "a WITH BREVE BELOWlCARONeEDILLAgIRCUMFLEXkDESCENDERiIAERESISiOT ABOVEfBELOWjHOOKeSTROKEmALF H",
  "fENGdWAIRfIa WITH ACUTEfBREVEfCARONeIRCUMFLEXkDIAERESISa AND ACUTEsOT ABOVEfBELOWhUBLE GRAVE",
  "mGRAVEfHOOK ABOVEkINVERTED BREVEoMACRONgOGONEKgSTROKEgTILDEa BELOWrNSULAR DbFbGbRbSbTiOTAdScJ",
  "a WITH CIRCUMFLEXjROSSED-TAILmSTROKEnKa WITH ACUTEfCARONeEDILLAhDESCENDERiIAGONAL STROKE",
  "oOT BELOWjHOOKeLINE BELOWkOBLIQUE STROKEoSTROKEa AND DIAGONAL STROKEziLa WITH ACUTEfBARcELT",
  "eCARONeEDILLAgIRCUMFLEX BELOWqDOT BELOWa AND MACRONsUBLE BARkHIGH STROKElLINE BELOWkMIDDLE DOT",
  "dTILDEmSMALL LETTER JnTROKEmJcMa WITH ACUTEfDOT ABOVEfBELOWjHOOKkIDDLE SCOTS Si-WELSH LLcVoN",
  "a WITH ACUTEfCARONeEDILLAgIRCUMFLEX BELOWqDESCENDERiOT ABOVEfBELOWjGRAVEfLEFT HOOKiINE BELOW",
  "jONG RIGHT LEGoOBLIQUE STROKEoSMALL LETTER JoTILDElJcOa WITH ACUTEfBREVEfCARONeIRCUMFLEX",
  "a AND ACUTEfDOT BELOWjGRAVEfHOOK ABOVEkTILDEuDIAERESISa AND MACRONtOT ABOVEa AND MACRONqBELOW",
  "hUBLE ACUTEfGRAVEmGRAVEfHOOK ABOVEiRNa AND ACUTEfDOT BELOWjGRAVEfHOOK ABOVEkTILDE",
  "oINVERTED BREVEoLONG STROKE OVERLAYrOPeMACRONa AND ACUTEfGRAVEpIDDLE TILDEmOGONEKa AND MACRON",
  "rSTROKEa AND ACUTEqTILDEa AND ACUTEfDIAERESISjMACRONwIbLD POLISH OlMEGAeObPEN EbOfUcP",
  "a WITH ACUTEfDOT ABOVEjFLOURISHiHOOKeSQUIRREL TAILmTROKEa THROUGH DESCENDERzgQ",
  "a WITH DIAGONAL STROKEpSTROKE THROUGH DESCENDERzgRa ROTUNDAhWITH ACUTEfCARONeEDILLAhDOT ABOVE",
  "fBELOWa AND MACRONsUBLE GRAVEmINVERTED BREVEoLINE BELOWkOBLIQUE STROKEoSTROKEgTAIL",
  "kEVERSED C WITH DOTkEbHALF HgOPEN EoUM ROTUNDAlSa WITH ACUTEa AND DOT ABOVEtCARON",
  "a AND DOT ABOVEsEDILLAgIRCUMFLEXjOMMA BELOWlDOT ABOVEfBELOWa AND DOT ABOVExHOOKeOBLIQUE STROKE",
  "oSHORT STROKE OVERLAYtWASH TAILqALTILLOhCHWAdRIPT GhHARP SgIGMOID SiMALL CAPITAL I",
  "jQ WITH HOOK TAILwTa WITH CARONeEDILLAgIRCUMFLEX BELOWpOMMA BELOWlDIAGONAL STROKEoOT ABOVE",
  "fBELOWjHOOKeLINE BELOWkRETROFLEX HOOKoSTROKEmHORNa WITH STROKEa THROUGH DESCENDERzjONE FIVE",
  "eSIXdTWOhRESILLOhURNED AaLPHAfHbINSULAR GjKbLbMbTbVhZcUa BARdWITH ACUTEfBREVEfCARONeIRCUMFLEX",
  "a BELOWqDIAERESISa AND ACUTEfCARONfGRAVEfMACRONkBELOWoOT BELOWhUBLE ACUTEfGRAVEmGRAVE",
  "fHOOK ABOVEiRNa AND ACUTEfDOT BELOWjGRAVEfHOOK ABOVEkTILDEoINVERTED BREVEoMACRON",
  "a AND DIAERESISuOGONEKgRING ABOVEkSTROKEgTILDEa AND ACUTEjBELOWrPSILONhVa WITH DIAGONAL STROKE",
  "oOT BELOWjHOOKeTILDElENDdISIGOTHIC ZlOLAPUK AEcOEcUEjYcWa WITH ACUTEfCIRCUMFLEXkDIAERESIS",
  "iOT ABOVEfBELOWjGRAVEfHOOKkYNNeXa WITH DIAERESISiOT ABOVEqYa WITH ACUTEfCIRCUMFLEXkDIAERESIS",
  "iOT ABOVEfBELOWjGRAVEfHOOKa ABOVEkLOOPeMACRONgSTROKEgTILDElOGHeZa WITH ACUTEfCARONeIRCUMFLEX",
  "kDESCENDERiOT ABOVEfBELOWjHOOKeLINE BELOWkPALATAL HOOKmSTROKEfWASH TAILxIGATURE IJcOEsROSS",
  "fEPIGRAPHIC LETTER ARCHAIC MjI LONGAgNVERTED MkREVERSED FbPkSIDEWAYS IzdLETTER AIN",
  "cLVEOLAR CLICKoBIDENTAL PERCUSSIVErLABIAL CLICKfPERCUSSIVEtDENTAL CLICKmGLOTTAL STOP",
  "a WITH STROKEyINVERTED GLOTTAL STOPa WITH CURLeSTROKEziLATERAL CL",
  "ICK",
  "nPHARYNGEAL VOICED FRICATIVEzcRETROFLEX CLICKa WITH RETROFLEX HOOKziVERSED ESH LOOP",
  "iGLOTTAL STOP WITH STROKEziSINOLOGICAL DOToMALL CAPITAL AaEcBaARRED BiCbDbEaTHcZHdFbG",
  "a WITH HOOKlHbIaNVERTED RkJbKbLa WITH BELTeSTROKEnMbNbOaEbPEN OfUcPbQbRa WITH RIGHT LEG",
  "pEVERSED NbRjUMdSbTaURNED EbGbKbMbRiUbVbWbYbZoTRETCHED Ca WITH CURLvTWO WITH STROKE",
  "pVOICED LARYNGEAL SPIRANTyWYNNeYRjSMALL CAPITAL LETTER I WITH STROKEnU WITH STROKEzdLETTER A",
  "a REVERSED-SCHWAoWITH ACUTEfBREVEa AND ACUTEfDOT BELOWjGRAVEfHOOK ABOVEkTILDEpCARONeIRCUMFLEX",
  "a AND ACUTEfDOT BELOWjGRAVEfHOOK ABOVEkTILDEuDIAERESISa AND MACRONtOT ABOVEa AND MACRONqBELOW",
  "hUBLE GRAVEmGRAVEfHOOK ABOVEkINVERTED BREVEoMACRONgOGONEKgRETROFLEX HOOKnIGHT HALF RING",
  "nNG ABOVEa AND ACUTEpBELOWkSTROKEgTILDElAbEa WITH ACUTEfMACRONnLPHAa WITH RETROFLEX HOOK",
  "yNGLICANA WkObUbVa WITH HORIZONTAL BARvYcBa WITH DOT ABOVEfBELOWjFLOURISHiHOOKeLINE BELOW",
  "kMIDDLE TILDEmPALATAL HOOKmSTROKEgTOPBARmARRED ALPHAfEbOgSELINE ESHlETAdLACKLETTER EbO",
  "a WITH STROKEyOTTOM HALF OmROKEN LiCa WITH ACUTEfBARdCARONeEDILLAa AND ACUTEqIRCUMFLEXjURL",
  "eDOT ABOVEjHOOKePALATAL HOOKmRETROFLEX HOOKoSTROKEmHIa WITH LOW LEFT SERIFkRIGHT RING",
  "wLOSED INSULAR GjOMEGAePEN EgREVERSED OPEN EvONcUATRILLOa WITH COMMAuDa WITH CARONeEDILLA",
  "gIRCUMFLEX BELOWpURLeDOT ABOVEfBELOWjHOOKa AND TAILnLINE BELOWkMIDDLE TILDEmPALATAL HOOK",
  "mSHORT STROKE OVERLAYtTROKEgTAILdOPBARmB DIGRAPHjELTAdZH DIGRAPHa WITH PALATAL HOOK",
  "mRETROFLEX HOOKzgOTLESS IbJa WITH STROKEa AND HOOKzdUBLE Ra WITH CROSSED-TAILtTHORNfWYNNkUMcZ",
  "a DIGRAPHa WITH CURLeRETROFLEX HOOKzcWITH CARONnEa WITH ACUTEfBREVEfCARONeEDILLAa AND BREVE",
  "qIRCUMFLEXa AND ACUTEfDOT BELOWjGRAVEfHOOK ABOVEkTILDEjBELOWqDIAERESISiOT ABOVEfBELOW",
  "hUBLE GRAVEmFLOURISHiGRAVEfHOOK ABOVEkINVERTED BREVEoMACRONa AND ACUTEfGRAVEqNOTCHfOGONEK",
  "gRETROFLEX HOOKoSTROKEgTILDEa BELOWrGYPTOLOGICAL AINcLEFrNGa WITH CROSSED-TAILmPALATAL HOOKuSH",
  "a WITH CURLeDOUBLE BARa AND CURLtPALATAL HOOKmRETROFLEX HOOKwTaHcZHa REVERSEDiWITH CARONeURL",
  "ePALATAL HOOKmRETROFLEX HOOKoTAILnFa WITH DOT ABOVEjHOOKeMIDDLE TILDEmPALATAL HOOKmSTROKE",
  "mENG DIGRAPHa WITH TRILLxGa WITH ACUTEfBREVEfCARONeEDILLAgIRCUMFLEXkDOT ABOVEjHOOKeMACRON",
  "gOBLIQUE STROKEoPALATAL HOOKmSTROKEmAMMAeHAcLOTTAL AbIbSTOPeUjHa WITH BREVE BELOWlCARONeEDILLA",
  "gIRCUMFLEXkDESCENDERiIAERESISiOT ABOVEfBELOWjHOOKeLINE BELOWkPALATAL HOOKmSTROKEmALF HfENG",
  "a WITH HOOKnVcIa WITH ACUTEfBREVEfCARONeIRCUMFLEXkDIAERESISa AND ACUTEsOT BELOWhUBLE GRAVE",
  "mGRAVEfHOOK ABOVEkINVERTED BREVEoMACRONgOGONEKgRETROFLEX HOOKoSTROKEa AND RETROFLEX HOOKzTILDE",
  "a BELOWrNSULAR DbFbGbRbSbThVERTED ALPHAfOEkOTAa WITH STROKEnIFIED EjScJa WITH CARONeIRCUMFLEX",
  "jROSSED-TAILmSTROKEnKa WITH ACUTEfCARONeEDILLAhDESCENDERiIAGONAL STROKEoOT BELOWjHOOK",
  "eLINE BELOWkOBLIQUE STROKEoPALATAL HOOKmSTROKEa AND DIAGONAL STROKEzhRAdLa WITH ACUTEfBARcELT",
  "a AND PALATAL HOOKvCARONeEDILLAgIRCUMFLEX BELOWpURLeDOT BELOWa AND MACRONsUBLE BAR",
  "dMIDDLE TILDEtFISHHOOKiHIGH STROKElINVERTED LAZY SpLINE BELOWkMIDDLE DOTdRINGeTILDE",
  "mPALATAL HOOKmRETROFLEX HOOKa AND BELTxSTROKEmAMBDA WITH STROKErENIS FfZHa WITH RETROFLEX HOOK",
  "xJbONG Sa WITH DIAGONAL STROKEoOT ABOVEjHIGH STROKEwS DIGRAPHjUMcZ DIGRAPHkMa WITH ACUTE",
  "fCROSSED-TAILmDOT ABOVEfBELOWjHOOKeMIDDLE TILDEmPALATAL HOOKsIDDLE SCOTS Si-WELSH LLcVnUMdN",
  "a PRECEDED BY APOSTROPHEwWITH ACUTEfCARONeEDILLAgIRCUMFLEX BELOWpROSSED-TAILlURLeDESCENDER",
  "iOT ABOVEfBELOWjGRAVEfLEFT HOOKiINE BELOWjONG RIGHT LEGoMIDDLE TILDEmOBLIQUE STROKE",
  "oPALATAL HOOKmRETROFLEX HOOKoTILDElJbUMdOa WITH ACUTEfBREVEfCARONeIRCUMFLEXa AND ACUTE",
  "fDOT BELOWjGRAVEfHOOK ABOVEkTILDEuDIAERESISa AND MACRONtOT ABOVEa AND MACRONqBELOWhUBLE ACUTE",
  "fGRAVEmGRAVEfHOOK ABOVEiRNa AND ACUTEfDOT BELOWjGRAVEfHOOK ABOVEkTILDEoINVERTED BREVE",
  "oLONG STROKE OVERLAYrOPcW RING INSIDEpMACRONa AND ACUTEfGRAVEqOGONEKa AND MACRON",
  "rRETROFLEX HOOKoSTROKEa AND ACUTEqTILDEa AND ACUTEfDIAERESISjMACRONwIbLD POLISH OlMEGAeObPEN E",
  "a WITH RETROFLEX HOOKvOa WITH RETROFLEX HOOKoSTROKEmEgUcPa WITH ACUTEfDOT ABOVEjFLOURISHiHOOK",
  "eMIDDLE TILDEmPALATAL HOOKmSQUIRREL TAILmTROKEa THROUGH DESCENDERzfHIdQa WITH DIAGONAL STROKE",
  "pHOOKa TAILjSTROKE THROUGH DESCENDERzfP DIGRAPHkRa ROTUNDAhWITH ACUTEfCARONeEDILLAgROSSED-TAIL",
  "mDOT ABOVEfBELOWa AND MACRONsUBLE GRAVEmFISHHOOKa AND MIDDLE TILDEmPALATAL HOOKzINVERTED BREVE",
  "oLINE BELOWjONG LEGiMIDDLE TILDEmOBLIQUE STROKEoPALATAL HOOKmSTROKEgTAILfOUT HANDLEpAMS HORN",
  "iEVERSED Ca WITH DOTkEaNGdHALF HgKbOPEN Ea WITH HOOKeRETROFLEX HOOKzbR WITH FISHHOOKpSCRIPT G",
  "qUMa ROTUNDAlSa WITH ACUTEa AND DOT ABOVEtCARONa AND DOT ABOVEsEDILLAgIRCUMFLEXjOMMA BELOWkURL",
  "eDOT ABOVEfBELOWa AND DOT ABOVExHOOKeMIDDLE TILDEmOBLIQUE STROKEoPALATAL HOOK",
  "mSHORT STROKE OVERLAYtWASH TAILqAKHA YAThLTILLOhCHWAa WITH HOOKeRETROFLEX HOOKxRIPT G",
  "a WITH CROSSED-TAILtRa WITH RINGrHARP SgIDEWAYS DIAERESIZED UnOa WITH STROKEmPEN OgTURNED MiU",
  "iGMOID SiQUAT REVERSED ESHrTIRRUP RjTa WITH CARONeEDILLAgIRCUMFLEX BELOWpOMMA BELOWkURL",
  "eDIAERESISgGONAL STROKEoOT ABOVEfBELOWjHOOKa AND RETROFLEX HOOKxLINE BELOWkMIDDLE TILDE",
  "mPALATAL HOOKmRETROFLEX HOOKoSTROKEmAILLESS PHIlC DIGRAPH WITH CURLtESH DIGRAPH",
  "a WITH PALATAL HOOKmRETROFLEX HOOKzgH WITH STRIKETHROUGHtORNa WITH STROKEa THROUGH DESCENDER",
  "zjONE FIVEeSIXdTWOgP HALF OjRESILLOhS DIGRAPHa WITH RETROFLEX HOOKzeUMbRNED AaEbLPHAfDELTAfEbG",
  "bHa WITH FISHHOOKa AND TAILyIaNSULAR GjKbLbMa WITH LONG LEGpO OPEN-Oa WITH STROKEtE",
  "a WITH HORIZONTAL STROKErSTROKEnPEN EgRa WITH HOOKeLONG LEGa AND RETROFLEX HOOKzcMIDDLE TILDE",
  "mPALATAL HOOKmTAILlTa WITH CURLlUIcVbWbYa WITH BELTrZcUa BARa WITH SHORT RIGHT LEGyWITH ACUTE",
  "fBREVEfCARONeIRCUMFLEXa BELOWqDIAERESISa AND ACUTEfCARONfGRAVEfMACRONkBELOWoOT BELOW",
  "hUBLE ACUTEfGRAVEmGRAVEfHOOK ABOVEiRNa AND ACUTEfDOT BELOWjGRAVEfHOOK ABOVEkTILDE",
  "oINVERTED BREVEoLEFT HOOKjMACRONa AND DIAERESISuOGONEKgRETROFLEX HOOKnING ABOVE",
  "kSHORT RIGHT LEGoTROKEgTILDEa AND ACUTEjBELOWrEbIbMbObPSILONa WITH STROKEtVa WITH CURL",
  "eDIAGONAL STROKEoOT BELOWjHOOKePALATAL HOOKmRIGHT HOOKkTILDElENDdISIGOTHIC ZlOLAPUK AEcOEcUEjY",
  "cWa WITH ACUTEfCIRCUMFLEXkDIAERESISiOT ABOVEfBELOWjGRAVEfHOOKeRING ABOVErXa WITH DIAERESIS",
  "iOT ABOVEjLONG LEFT LEGa AND LOW RIGHT RINGsWITH SERIFwW RIGHT RINGoPALATAL HOOKtYa WITH ACUTE",
  "fCIRCUMFLEXkDIAERESISiOT ABOVEfBELOWjGRAVEfHOOKa ABOVEkLOOPeMACRONgRING ABOVEkSHORT RIGHT LEG",
  "oTROKEgTILDElOGHeZa WITH ACUTEfCARONeIRCUMFLEXjURLeDESCENDERiOT ABOVEfBELOWjHOOKeLINE BELOW",
  "kMIDDLE TILDEmPALATAL HOOKmRETROFLEX HOOKoSTROKEfWASH TAILxIGATURE FFaIbLcIbLcIJcLONG S TiOE",
  "cSTqUBSCRIPT SMALL LETTER AbEbHbIbJbKbLbMbNbObPbRbSaCHWAfTbUbVbXzeEAF FLUTTERING IN WIND",
  "tY GREENjDGEReFT AND LOWER AND RIGHT TRIANGULAR THREE QUARTERS BLOCKzqONE EIGHTH BLOCK",
  "wRIGHT DOUBLE TURNSTILEqTACKdRIANGULAR HALF BLOCK",
  "zcUPPER AND RIGHT TRIANGULAR THREE QUARTERS BLOCKzqONE EIGHTH BLOCKyGER BUBBLEjLE BRACKET",
  "a WITH DOTvRC LESS-THAN BRACKETtROW WITH CIRCLED PLUSmSMALL CIRCLE",
  "xBARB DOWN RIGHT BARB DOWN HARPOONmUP HARPOONzbUP RIGHT BARB DOWN HARPOONmUP HARPOON",
  "zdLACK LENTICULAR BRACKETsTORTOISE SHELL BRACKETzdCEILINGgLOSED ENTRYlORNER BRACKET",
  "nURLY BRACKETa LOWER HOOKkMIDDLE PIECEmUPPER HOOKyDOTTED SUBSTITUTION BRACKET",
  "zUBLE ANGLE BRACKETnPARENTHESISlQUOTATION MARKoWIGGLY FENCEtFISH TAILhVE EIGHTHS BLOCKrLOOR",
  "fHALF BLACK CIRCLEgSTARiOCKfCIRCLEa WITH DOTdFOUR DOTSjTHREE DOTSjWO DOTSuFOLDER",
  "gINVERSE MEDIUM SHADE AND RIGHT HALF BLOCKzqMEDIUM SHADEmRUNNING MANoND TELEPHONE RECEIVER",
  "xLOW PARAPHRASE BRACKETvUGGAGEhMULTIMAPiNORMAL FACTOR SEMIDIRECT PRODUCTzhONE EIGHTH BLOCK",
  "mQUARTER BLOCKqUTER JOINkPARENTHESISa EXTENSIONjLOWER HOOKkUPPER HOOKwRAISED OMISSION BRACKET",
  "wIGHT ARROWa THROUGH SMALL CIRCLEuWITH DOUBLE VERTICAL STROKEwSTROKEgVERTICAL STROKE",
  "zbBLACK ARROWlDOUBLE ARROWa WITH STROKEgVERTICAL STROKEziOPEN-HEADED ARROWrSANS-SERIF ARROW",
  "qTRIANGLE-HEADED ARROWvWAVE ARROWjHITE ARROWrS-SHAPED BAG DELIMITERvEMIDIRECT PRODUCT",
  "qVEN EIGHTHS BLOCKsIDEWAYS U BRACKETqNGLE QUOTATION MARKuPEECH BUBBLEmQUARE BRACKETa EXTENSION",
  "jLOWER CORNERmUPPER CORNERmWITH DOUBLE STROKEnQUILLfSTROKEgTICK IN BOTTOM CORNERnTOP CORNER",
  "sUNDERBARzcUBSTITUTION BRACKETuTACKdHIRD WHITE RIGHT POINTING INDEXzfOUGHT BUBBLE",
  "mREE EIGHTHS BLOCKnQUARTERS BLOCKtORTOISE SHELL BRACKETvRANSPOSITION BRACKET",
  "tIANGLE BESIDE VERTICAL BARwULAR ONE QUARTER BLOCKzdVERTICAL BAR WITH QUILLnOX LINE",
  "rWHITE CORNER BRACKETnURLY BRACKETnLENTICULAR BRACKETsPARENTHESISlSQUARE BRACKET",
  "oTORTOISE SHELL BRACKETzcIGGLY FENCElRITING HANDn-FACING ARMENIAN ETERNITY SIGNwFIST",
  "eSVASTI SIGNa WITH DOTSzdHANDED INTERLACED PENTAGRAMzcPOINTING ANGLE BRACKET",
  "nCURVED ANGLE BRACKETuDOUBLE ANGLE QUOTATION MARKzcMAGNIFYING GLASS",
  "zSHADED WHITE RIGHTWARDS ARROWzdIDE ARC ANTICLOCKWISE ARROWzdTO-RIGHT EMBEDDINGjISOLATEhMARK",
  "eOVERRIDEsWARDS ARROWa ABOVE ALMOST EQUAL TOpREVERSE ALMOST EQUAL TOpTILDE OPERATOR",
  "wSHORT RIGHTWARDS ARROWwTILDE OPERATORtND UPPER AND LOWER ONE EIGHTH BLOCKzlFROM BAR",
  "a TO BLACK DIAMONDzOVER RIGHTWARDS ARROWvTHROUGH LESS-THANjSUBSETgXiO BAR",
  "a OVER RIGHTWARDS ARROW TO BARzgLACK DIAMONDqWITH DOTTED STEMjUBLE VERTICAL STROKE",
  "wEQUILATERAL ARROWHEADvHOOKeLARGE TRIANGLE ARROWHEADxOOPeMEDIUM TRIANGLE ARROWHEAD",
  "zNOTCHED TAILmPLUS BELOWkSMALL EQUILATERAL ARROWHEADvTRIANGLE ARROWHEADxTROKEgTAIL",
  "a WITH DOUBLE VERTICAL STROKEwVERTICAL STROKEyIP DOWNWARDSjUPWARDSlVERTICAL STROKEv-TAIL",
  "kBACK-TILTED SHADOWED WHITE ARROWzgLACK ARROWfCIRCLED WHITE ARROWyOTTOM-SHADED WHITE ARROW",
  "zCOMPRESSED ARROWqDASHED ARROWlOUBLE ARROWa FROM BARiWITH STROKEgVERTICAL STROKEv-TAIL",
  "kDASH ARROWrFINGER-POST ARROWqRONT-TILTED SHADOWED WHITE ARROWziHAND",
  "cRPOON OVER RIGHTWARDS HARPOONxWITH BARB DOWN ABOVE RIGHTWARDS HARPOON WITH BARB DOWN",
  "zoBELOW LONG DASHpFROM BARiTO BARhWARDSjUP ABOVE LEFTWARDS HARPOON WITH BARB DOWNzgONG DASH",
  "jRIGHTWARDS HARPOON WITH BARB UPzmFROM BARiTO BARhWARDSyEAVY ARROWfCOMPRESSED ARROW",
  "wLEFT-SHADED WHITE ARROWxOPEN-HEADED ARROWrPAIRED ARROWSnQUADRUPLE ARROW",
  "pRIGHT-SHADED WHITE ARROWxOCKETgSANS-SERIF ARROWpQUARED ARROWkIGGLE ARROW",
  "oTOP SHADED WHITE ARROWvRIANGLE ARROWHEADk-HEADED ARROWa OVER RIGHTWARDS TRIANGLE-HEADED ARROW",
  "zmTO BARgWITH BOLD SHAFTkDOUBLE HORIZONTAL STROKErVERTICAL STROKEwHEAVY SHAFT",
  "lLONG TIP DOWNWARDSjUPWARDSqMEDIUM SHAFTmNARROW SHAFTmVERY HEAVY SHAFTzcDASHED ARROW",
  "mPAIRED ARROWSzbPLE ARROWfDASH ARROWqWO HEADED ARROWn-HEADED ARROW FROM BAR",
  "iWITH DOUBLE VERTICAL STROKEwTAILa WITH DOUBLE VERTICAL STROKEwVERTICAL STROKE",
  "yRIANGLE ARROWHEADStVERTICAL STROKEzbTRIPLE DASH ARROWzdWAVE ARROWjHITE ARROW",
  "a WITHIN TRIANGLE ARROWHEADzuGbMONdOaPARDfPCHA CONSONANT SIGN KaANGeLbMbNaYIN-DOhPbRbT",
  "qDIGIT EIGHTfFIVEdOUReNINEeONEdSEVENeIXdTHREEeWOdZEROkLETTER AbBAbLAdCAbHAdDAbDAcZAdFAbLAdGA",
  "bLAdHAbLAdJAcKAbHAcLAdLAcMAbLAdNAbGAcYAdPAbHAcLAdRAcSAbHAdTAbHAcSAbHAdTAbHAeVAcWAcYA",
  "jPUNCTUATION CER-WAgNYET THYOOM TA-ROLsTA-ROLfSHOOKa CER-WAzSIGN NUKTAfRANhUBJOINED LETTER RA",
  "cYAtVOWEL SIGN AAcEbIbOaOcUaUsSS-THAN ABOVE DOUBLE-LINE EQUAL ABOVE GREATER-THAN",
  "zlGREATER-THAN ABOVE DOUBLE-LINE EQUALzlLEFTWARDS ARROWpSIMILAR ABOVE GREATER-THANsOR EQUAL",
  "pLANTED EQUAL ABOVE GREATER-THAN ABOVE SLANTED EQUALzzhND NOT APPROXIMATE",
  "pSINGLE-LINE NOT EQUAL TOzdBUT NOT EQUAL TOfIVALENT TOvCLOSED BY CURVEa ABOVE SLANTED EQUAL",
  "zkEQUAL TO OR GREATER-THANyOR APPROXIMATElEQUAL TOfIVALENT TOnGREATER-THANmSLANTED EQUAL TO",
  "a WITH DOT ABOVEa RIGHTlINSIDEzjVER EQUAL TOnSIGNeWITH CIRCLE INSIDEnDOTdQUESTION MARK ABOVE",
  "zhVEL SLIDERlFbIBRAdGATURE OPEN ET ORNAMENTwHT CHECK MARKkEIGHT SPOKED ASTERISK",
  "vFIVE POINTED BLACK STARsSPOKED ASTERISKtOUR POINTED BLACK CUSPeSTARxGREEK CROSS",
  "lLEFT TORTOISE SHELL BRACKET ORNAMENTzlRAILdIGHT TORTOISE SHELL BRACKET ORNAMENTzmSALTIREgHADE",
  "eIX SPOKED ASTERISKtTHREE POINTED BLACK STARxWELVE POINTED BLACK STARzVERTICAL BAR",
  "mWHITE SQUAREnNINGa MOODa BUBBLEtMBU DIGIT EIGHTfFIVEdOUReNINEeONEdSEVENeIXdTHREEeWOdZERO",
  "kEXCLAMATION MARKqLETTER BAbHAdCAbHAdDAbHAdGAbHAcYANeHAcJAbHAdKAbHAdLAcMAcNAbGAdPAbHAdRAcSAbHA",
  "cSAdTAbHAcRAdWAcYAaNkQUESTION MARKnSIGN KEMPHRENGjLOOdMUKPHRENGjSA-IiMALL LETTER ANUSVARAiKA",
  "cLAcMAcNAbGAdPAcRAcTAoUBJOINED LETTER RAcWAcYAtVOWEL SIGN AaIbUcEaEcIbOaOcUh-CARRIER LETTER",
  "xITED LIABILITY SIGNuNE FEEDeINTEGRATION NOT INCLUDING THE POLE",
  "wWITH RECTANGULAR PATH AROUND POLEzdSEMICIRCULAR PATH AROUND POLEzvSEPARATORjTABULATIONa SET",
  "pAR A SIGN A028Be100-102g20Bd31Ce301b2b3b4b5b6b7b8b9AbBbCd10b1b2b3AbBbCc4b5b6b7b8b9c20b1b2b3b4",
  "b5b6b7b8b9c30b1b2b3b4b5b6b7b8b9c40b1b2b3b4b5b6b7b8b9c50b1b2b3b4b5b6b7b8b9c60b1b2b3b4b5b6b7b8b9",
  "c70b1d400-VASf1-VASf2-VASf3-VASf4-VASf5-VASf6-VASf7-VASf8-VASf9-VASg10-VASf1-VASf2-VASf3-VAS",
  "f4-VASf5-VASf6-VASf7-VASf8-VASh501b2b3b4b5b6b8b9c10b1b2b3b5b6c20b1b3b4b5b6b7b8b9c30b1b2b4b5b6",
  "b7b8b9c40b1b2b5b7b8b9c50b1b2b3b4b5b6b7b9c63b4b5b6b8b9c70b1b2b3b4b5b6b7b8b9c80b1b2b3b4b5b6b7b8",
  "b9c91b2b4b5b6b8d600b1b2b3b4b6b8b9c10b1b2b3b4b5b6b7b8b9c20b1b2b3b4b6b7b8b9c34b7b8c40b2b3b4b5b6",
  "b8b9c51b2b3b4b5b6b7b8b9c60b1b2b3b4d701 Ad2 Bd3 Dd4 Ed5 Fd6 Hd7 Jd8 Kd9 Lc-2 L2e3 L3e4 L4e6 L6",
  "h10 Wd1 Xd2 Yd3 OMEGAh4 ABBf5 BBe7 DDf26 EYYYh32 JEg800b1b2b3b4b5b6b7dB001b2b3b4b5b6b7b8b9c10",
  "b1b3b6b7c20b1aFbMc2aFbMc3aMc4b6b7b8b9c30b1b4b7b8b9c40b1b4b5b6b7b8b9c50b1b3b4b5b6b7b8b9c60b1b5",
  "b6b7b9c70b3b4b6b7b8b9c80b1b2b5b6b7d118c20b2b3c31AbBd64c71c80b8c91mB IDEOGRAM B100 MANf2 WOMAN",
  "h4 DEERg5 EQUIDgF MAREgM STALLIONl6F EWEfM RAMg7F SHE-GOATkM HE-GOATk8F SOWfM BOARh9F COW",
  "fM BULLi20 WHEATh1 BARLEYi2 OLIVEh3 SPICEh5 CYPERUSk30 OILf1 WINEg2c40 BRONZEi1 GOLDg2b5 WOOL",
  "g6c50b1 HORNg2b3b4b7b8b9 CLOTHi60b1b2 GARMENTj3 ARMOURi4b5b6b7b8b9c70b1b2b3 MONTHh4b6 TREEg7b8",
  "b9c80b1b2b3b4b5b9c90b1 HELMETk220 FOOTSTOOLl5 BATHTUBk30 SPEARh1 ARROWh2b3 SWORDh4b6",
  "c40 WHEELED CHARIOTr1 CHARIOTj2 CHARIOT FRAMEp3 WHEELh5b6b8b9c51b2b3b4 DARTg5b6b7b8b9",
  "eVESSEL B155d200b1b2b3b4b5b6b7b8b9c10b1b2b3b4b5b6b7b8b9c21b2b6b7b8b9c50d305uMONOGRAM B127 KAPO",
  "g8 KANAKOj33 AREPAh5 MERIh56 TURO2j247 DIPTEtSYLLABLE B001 DAe2 ROe3 PAe4 TEe5 TOe6 NAe7 DI",
  "e8 Ad9 SEf10 Ud1 POe2 SOe3 MEe4 DOe5 MOe6 QAe7 ZAf20 ZOe1 QIe3 MUe4 NEe5 A2e6 RUe7 REe8 I",
  "d9 PU2g30 NIe1 SAe2 QOe3 RA3f6 JOe7 TIe8 Ed9 PIf40 WIe1 SIe2 WOe3 A3e4 KEe5 DEe6 JEe8 NWA",
  "g50 PUe1 DUe2 NOe3 RIe4 WAe5 NUe7 JAe8 SUe9 TAf60 RAe1 Od2 PTEf5 JUe6 TA2f7 KIe8 RO2f9 TU",
  "f70 KOe1 DWEf2 PEe3 MIe4 ZEe5 WEe6 RA2f7 KAe8 QEf80 MAe1 KUe5 AUe7 TWEg90 DWOf1 TWOpMBOL B018",
  "b9c22c34c47b9c56c63b4c79c82b3b6b9rK SYMBOLhED PAPERCLIPSpON FACEhPSaTICKgRA SIGNhSU LETTER AaE",
  "cBAcCAbHAdDAbZAdEaUcFAcGAbHAdHAbHAdIbJAcKAbHAdLAcMAcNAbGAdOaEcPAbHAdSAbHAdTAbHAcONE MYA BOcCYA",
  "dJEUdNAcTIgNA POjSAbHAeUaEbHcWAcXAcYAbHAdZAbHAkPUNCTUATION COMMAfFULL STOPyVRE TOURNOIS SIGN",
  "rZARDfLAMAeOBSTERfCKa WITH INK PENnING-SHIFT ONEdZEROqGICAL ANDa WITH DOT ABOVEhUBLE OVERBAR",
  "hUNDERBARpHORIZONTAL DASHpMIDDLE STEMlUNDERBARrORa OVERLAPPING LOGICAL ANDxWITH DOT ABOVE",
  "hUBLE OVERBARhUNDERBARpHORIZONTAL DASHpMIDDLE STEMzLLIPOP",
  "gNG DASH FROM LEFT MEMBER OF DOUBLE VERTICALzoIVISIONhRUMeLEFT RIGHT ARROWfDOUBLE ARROWsTACK",
  "fWARDS ARROWa FROM BARoDOUBLE ARROWa FROM BARvSQUIGGLE ARROWyRIGHT TACKfWARDS ARROWa FROM BAR",
  "oDOUBLE ARROWa FROM BARvSQUIGGLE ARROWzdTION BOTTLEkUSdUDLY CRYING FACEqVE HOTELfLETTER",
  "jW ASTERISKiBATTERYgRIGHTNESS SYMBOLrDOUBLE PRIME QUOTATION MARKzcKAVYKAa WITH DOTpLINE",
  "fER BLADE SCISSORSoFIVE EIGHTHS BLOCKsHALF BLOCKfCIRCLEgINVERSE WHITE CIRCLEuMEDIUM SHADE",
  "rLEFT BALLPOINT PENmLOCK DIAGONAL LOWER MIDDLE LEFT TO LOWER CENTREgRIGHT",
  "zhUPPER CENTRE TO LOWER MIDDLE RIGHTmRIGHTlUPPER MIDDLE RIGHTzdLEFT TO LOWER CENTRE",
  "gMIDDLE RIGHTsUPPER MIDDLE RIGHTzbMIDDLE LEFT TO LOWER CENTREgMIDDLE RIGHTmRIGHTzwCRAYON",
  "gFOUNTAIN PENmPAINTBRUSHjENCILgQUADRANT CIRCULAR ARCvSEMICIRCULAR ANTICLOCKWISE ARROW",
  "zhTRIANGLEcULAR MEDIUM SHADEzdONE EIGHTH BLOCKmQUARTER BLOCK",
  "rRIGHT BLOCK DIAGONAL LOWER CENTRE TO LOWER MIDDLE RIGHTsUPPER MIDDLE RIGHTmRIGHT",
  "vLEFT TO LOWER MIDDLE RIGHTsUPPER CENTREgMIDDLE RIGHTzbMIDDLE LEFT TO UPPER CENTRE",
  "gMIDDLE RIGHTmRIGHTzhUPPER MIDDLE LEFT TO UPPER CENTREgRIGHTzwCORNER WITH DOT",
  "pDROP-SHADOWED WHITE SQUAREzbPENCILgQUADRANT CIRCULAR ARCvSEMICIRCULAR CLOCKWISE ARROW",
  "zcHADOWED WHITE CIRCLEgSQUAREvTRIANGLEcULAR MEDIUM SHADEzeSEVEN EIGHTHS BLOCK",
  "tTHREE EIGHTHS BLOCKnQUARTERS BLOCKtRIANGULAR ONE QUARTER BLOCKzhZENGE",
  "a DIVIDED BY HORIZONTAL RULEziREbIbMbOcUGGAGEfNGSeYCIAN LETTER AaNcBaHcDbEaNcGbHbIbJbKaKcLbMaM",
  "cNaNcPbQbRbSbTaHbTcUbWbXbZnDIAN LETTER AaNcBbCbDbEaNcFbGbIbKbLaYcMbNaNcObQbRbSaScTaTcUbVbY",
  "iTRIANGULAR MARKuING FACE"]

end TidyImports.Text.CharName
