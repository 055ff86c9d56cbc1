/-!
# Names of characters from M to R

The names that begin with these letters, in the order of the alphabet. The small letters before an
ending add up, from nothing for `a` to 25 for `z`, to how many of the last characters of the name
before give way to it.
-/

namespace TidyImports.Text.CharName

def linesFromM : List String := [
  "aMACRONeGEbIC WANDhNETeHAJANI ABBREVIATION SIGNrLETTER AbBAbHAdCAbHAdDAbDAbHAdHAdEbGAbHAdHAcI",
  "bJAbHAdKAbHAdLAcMAcNAbNAcYAdObPAbHAdRAbRAdSAcTAbHAcTAbHAeUbVAiIGATURE SHRInSECTION MARK",
  "lIGN NUKTAqJONG TILE AUTUMNgBACKcMBOOgCHRYSANTHEMUMnEAST WINDiIGHT OF BAMBOOShCHARACTERS",
  "jIRCLESqFIVE OF BAMBOOShCHARACTERSjIRCLESoOUR OF BAMBOOShCHARACTERSjIRCLESpGREEN DRAGONmJOKER",
  "fNINE OF BAMBOOShCHARACTERSjIRCLESoORTH WINDkONE OF BAMBOOShCHARACTERSjIRCLESnRCHIDgPLUM",
  "eRED DRAGONkSEVEN OF BAMBOOShCHARACTERSjIRCLESpIX OF BAMBOOShCHARACTERSjIRCLESnOUTH WINDjPRING",
  "fUMMERgTHREE OF BAMBOOShCHARACTERSjIRCLESpWO OF BAMBOOShCHARACTERSjIRCLESoWEST WIND",
  "iHITE DRAGONlINTERrKASAR ANGKAfEND OF SECTIONoLETTER AbBAcCAcDAcGAcJAcKAcLAcMAcNAbGAcYAdPAcRA",
  "cSAcTAcVAcYAjPASSIMBANGkVOWEL SIGN EbIbObUsLAYALAM AU LENGTH MARKoDATE MARKiIGIT EIGHTfFIVE",
  "dOUReNINEeONEdSEVENeIXdTHREEeWOdZEROkFRACTION ONE EIGHTHgFIFTHeORTIETHiHALF",
  "eONE-HUNDRED-AND-SIXTIETHyQUARTERhSIXTEENTHjTENTHeWENTIETHnTHREE EIGHTIETHSkQUARTERS",
  "iSIXTEENTHSkTWENTIETHSzLETTER AaAbIbRCHAIC IIjUcBAbHAdCAbHAbILLU KbLaLaLdMbNaNcRRcYiDAbDAbHA",
  "dHAcOT REPHiEaEcGAbHAdHAcIaIcJAbHAdKAbHAdLAbLAbLAeMAcNAbGAcNAbNAdYAdOaOcPAbHAdRAbRAdSAbHAcSA",
  "dTAbHAcTAbHAcTAeUaUcVAbEDIC ANUSVARAnOCALIC LaLcRaRkYAjNUMBER ONE HUNDREDhTHOUSANDmTEN",
  "kSIGN ANUSVARAhVAGRAHAiCANDRABINDUkIRCULAR VIRAMAoOMBINING ANUSVARA ABOVEyPARA",
  "eVERTICAL BAR VIRAMAsIRAMAeSARGAmVOWEL SIGN AAbIbUcEaEcIaIcOaOcUaUcVOCALIC LaLcRaR",
  "zdE AND FEMALE SIGNpSIGNeWITH STROKE AND MALE AND FEMALE SIGNySIGNsTESE CROSSlMMOTHfN",
  "a AND WOMAN HOLDING HANDSxDANCINGhIN BUSINESS SUIT LEVITATINGyTUXEDOjWITH GUA PI MAOkTURBAN",
  "mAT SIGNhDAIC AFFRICATION MARKqGEMINATION MARKpLETTER ABbDbGbHbINcKaSAdLbMbNbPbQbRbSaHbZcTaTcZ",
  "cDUSHENNAiHALQAfINbTcKADdUSHENNAoPUNCTUATIONlVOCALIZATION MARKwGO",
  "cICHAEAN ABBREVIATION MARK ABOVEfBELOWxLETTER AAYINeLEPHeYINeBETHdHETHfDALETHfHAMEDHhFEcGHIMEL",
  "fIMELfHEaTHeJAYINeHAYINgKAPHdHAPHfLAMEDHgMEMdNUNdPEcQHOPHeOPHeRESHeSADHEdMEKHfHINdSHINfTAWcETH",
  "dHAMEDHhWAWdXAPHdOPHeYODHeZAYINeHAYINnNUMBER FIVEeONEa HUNDREDlTENcWENTYnPUNCTUATION DOT",
  "a WITHIN DOTmUBLE DOT WITHIN DOTvFLEURONhLINE FILLERlSTAReTWO DOTSuSIGN UDpS SHOE",
  "gTELPIECE CLOCKoUAL WHEELCHAIRpP SYMBOL FOR LIGHTHOUSEwLE LEAFiRCHEN HEAD MARKjLETTER -AcAbBA",
  "cCAbHAdDAbZAdGAcHAcJAcKAbHAdLAcMAcNAbGAcYAdPAbHAdRAcSAbHAdTAbHAcSAbHAeWAcYAcZAbHAkMARK SHAD",
  "jSIGN ANUSVARAiCANDRABINDUpUBJOINED LETTER AbBAcCAbHAdDAbZAdGAcHAcJAcKAbHAdLAcMAcNAbGAcYAdPA",
  "bHAdRAcSAbHAdTAbHAcSAbHAeWAcYAcZAbHAuVOWEL SIGN AAcEbIbObUrRIAGE SYMBOLmTIAL ARTS UNIFORM",
  "sSARAM GONDI DIGIT EIGHTfFIVEdOUReNINEeONEdSEVENeIXdTHREEeWOdZEROkLETTER AaAbIbUcBAbHAdCAbHA",
  "dDAbDAbHAdHAdEbGAbHAdHAcIaIcJAbHAcNYAeKAbHAcSSAeLAbLAdMAcNAbGAcNAcYAdObPAbHAdRAcSAbHAcSAdTAbHA",
  "cRAcTAbHAeUaUcVAcYAjRA-KARAgEPHAfSIGN ANUSVARAiCANDRAgHALANTAhNUKTAfVISARGAmVIRAMA",
  "fOWEL SIGN AAbIbUcEbIaIcObUaUcVOCALIC RzgCULINE ORDINAL INDICATORyK WORK SYMBOLnU MARK",
  "hTE DRINKhHEMATICAL BOLD CAPITAL AaLPHAfBaETAeCaHIdDaELTAeIGAMMAhEaPSILONgTAdFbGaAMMAfHbIaOTA",
  "eJbKaAPPAfLaAMDAfMaUcNaUcOaMEGAdICRONhPaHIcIbSIdQbRaHOdSaIGMAfTaAUcHETAa SYMBOLmUaPSILONhVbWbX",
  "aIcYbZaETAmDIGIT EIGHTfFIVEdOUReNINEeONEdSEVENeIXdTHREEeWOdZEROkEPSILON SYMBOL",
  "oFRAKTUR CAPITAL AbBbCbDbEbFbGbHbIbJbKbLbMbNbObPbQbRbSbTbUbVbWbXbYbZjSMALL AbBbCbDbEbFbGbHbIbJ",
  "bKbLbMbNbObPbQbRbSbTbUbVbWbXbYbZpITALIC CAPITAL AaLPHAfBaETAeCaHIdDaELTAfEaPSILONgTAdFbGaAMMA",
  "fHbIaOTAeJbKaAPPAfLaAMDAfMaUcNaUcOaMEGAdICRONhPaHIcIbSIdQbRaHOdSaIGMAfTaAUcHETAa SYMBOLmU",
  "aPSILONhVbWbXaIcYbZaETAmEPSILON SYMBOLoKAPPA SYMBOLmNABLAfPARTIAL DIFFERENTIALtHI SYMBOL",
  "jI SYMBOLjRHO SYMBOLkSMALL AaLPHAfBaETAeCaHIdDaELTAfEaPSILONgTAdFaINAL SIGMAlGaAMMAfHbIaOTAeJ",
  "bKaAPPAfLaAMDAfMaUcNaUcOaMEGAdICRONhPaHIcIbSIdQbRaHOdSaIGMAfTaAUcHETAfUaPSILONhVbWbXaIcYbZaETA",
  "kTHETA SYMBOLtKAPPA SYMBOLmNABLAfPARTIAL DIFFERENTIALtHI SYMBOLjI SYMBOLjRHO SYMBOL",
  "kSCRIPT CAPITAL AbBbCbDbEbFbGbHbIbJbKbLbMbNbObPbQbRbSbTbUbVbWbXbYbZjSMALL AbBbCbDbEbFbGbHbIbJ",
  "bKbLbMbNbObPbQbRbSbTbUbVbWbXbYbZnMALL AaLPHAfBaETAeCaHIdDaELTAeIGAMMAhEaPSILONgTAdFaINAL SIGMA",
  "lGaAMMAfHbIaOTAeJbKaAPPAfLaAMDAfMaUcNaUcOaMEGAdICRONhPaHIcIbSIdQbRaHOdSaIGMAfTaAUcHETAfU",
  "aPSILONhVbWbXaIcYbZaETAkTHETA SYMBOLrDOUBLE-STRUCK CAPITAL AbBbDbEbFbGbIbJbKbLbMbObSbTbUbVbWbX",
  "bYjDIGIT EIGHTfFIVEdOUReNINEeONEdSEVENeIXdTHREEeWOdZEROkSMALL AbBbCbDbEbFbGbHbIbJbKbLbMbNbObP",
  "bQbRbSbTbUbVbWbXbYbZvFALLING DIAGONALpRAKTUR CAPITAL AbBbDbEbFbGbJbKbLbMbNbObPbQbSbTbUbVbWbXbY",
  "jSMALL AbBbCbDbEbFbGbHbIbJbKbLbMbNbObPbQbRbSbTbUbVbWbXbYbZpITALIC CAPITAL AaLPHAfBaETAeCaHIdD",
  "aELTAfEaPSILONgTAdFbGaAMMAfHbIaOTAeJbKaAPPAfLaAMDAfMaUcNaUcOaMEGAdICRONhPaHIcIbSIdQbRaHOdS",
  "aIGMAfTaAUcHETAa SYMBOLmUaPSILONhVbWbXaIcYbZaETAmEPSILON SYMBOLoKAPPA SYMBOLmNABLA",
  "fPARTIAL DIFFERENTIALtHI SYMBOLjI SYMBOLjRHO SYMBOLkSMALL AaLPHAfBaETAeCaHIdDaELTAeOTLESS IbJ",
  "jEaPSILONgTAdFaINAL SIGMAlGaAMMAfIaOTAeJbKaAPPAfLaAMDAfMaUcNaUcOaMEGAdICRONhPaHIcIbSIdQbRaHOdS",
  "aIGMAfTaAUcHETAfUaPSILONhVbWbXaIcYbZaETAkTHETA SYMBOLtLEFT ANGLE BRACKETnDOUBLE ANGLE BRACKET",
  "uFLATTENED PARENTHESISvWHITE SQUARE BRACKEToTORTOISE SHELL BRACKETziMONOSPACE CAPITAL AbBbCbD",
  "bEbFbGbHbIbJbKbLbMbNbObPbQbRbSbTbUbVbWbXbYbZjDIGIT EIGHTfFIVEdOUReNINEeONEdSEVENeIXdTHREEeWO",
  "dZEROkSMALL AbBbCbDbEbFbGbHbIbJbKbLbMbNbObPbQbRbSbTbUbVbWbXbYbZrRIGHT ANGLE BRACKET",
  "nDOUBLE ANGLE BRACKETuFLATTENED PARENTHESISvWHITE SQUARE BRACKEToTORTOISE SHELL BRACKET",
  "zhSING DIAGONALpSANS-SERIF BOLD CAPITAL AaLPHAfBaETAeCaHIdDaELTAfEaPSILONgTAdFbGaAMMAfHbIaOTA",
  "eJbKaAPPAfLaAMDAfMaUcNaUcOaMEGAdICRONhPaHIcIbSIdQbRaHOdSaIGMAfTaAUcHETAa SYMBOLmUaPSILONhVbWbX",
  "aIcYbZaETAmDIGIT EIGHTfFIVEdOUReNINEeONEdSEVENeIXdTHREEeWOdZEROkEPSILON SYMBOL",
  "oITALIC CAPITAL AaLPHAfBaETAeCaHIdDaELTAfEaPSILONgTAdFbGaAMMAfHbIaOTAeJbKaAPPAfLaAMDAfMaUcNaU",
  "cOaMEGAdICRONhPaHIcIbSIdQbRaHOdSaIGMAfTaAUcHETAa SYMBOLmUaPSILONhVbWbXaIcYbZaETA",
  "mEPSILON SYMBOLoKAPPA SYMBOLmNABLAfPARTIAL DIFFERENTIALtHI SYMBOLjI SYMBOLjRHO SYMBOLkSMALL A",
  "aLPHAfBaETAeCaHIdDaELTAfEaPSILONgTAdFaINAL SIGMAlGaAMMAfHbIaOTAeJbKaAPPAfLaAMDAfMaUcNaUcOaMEGA",
  "dICRONhPaHIcIbSIdQbRaHOdSaIGMAfTaAUcHETAfUaPSILONhVbWbXaIcYbZaETAkTHETA SYMBOLtKAPPA SYMBOL",
  "mNABLAfPARTIAL DIFFERENTIALtHI SYMBOLjI SYMBOLjRHO SYMBOLkSMALL AaLPHAfBaETAeCaHIdDaELTAfE",
  "aPSILONgTAdFaINAL SIGMAlGaAMMAfHbIaOTAeJbKaAPPAfLaAMDAfMaUcNaUcOaMEGAdICRONhPaHIcIbSIdQbRaHOdS",
  "aIGMAfTaAUcHETAfUaPSILONhVbWbXaIcYbZaETAkTHETA SYMBOLrCAPITAL AbBbCbDbEbFbGbHbIbJbKbLbMbNbObP",
  "bQbRbSbTbUbVbWbXbYbZjDIGIT EIGHTfFIVEdOUReNINEeONEdSEVENeIXdTHREEeWOdZEROkITALIC CAPITAL AbBbC",
  "bDbEbFbGbHbIbJbKbLbMbNbObPbQbRbSbTbUbVbWbXbYbZjSMALL AbBbCbDbEbFbGbHbIbJbKbLbMbNbObPbQbRbSbTbU",
  "bVbWbXbYbZoSMALL AbBbCbDbEbFbGbHbIbJbKbLbMbNbObPbQbRbSbTbUbVbWbXbYbZrCRIPT CAPITAL AbCbDbGbJbK",
  "bNbObPbQbSbTbUbVbWbXbYbZjSMALL AbBbCbDbFbHbIbJbKbLbMbNbPbQbRbSbTbUbVbWbXbYbZzXIMIZE",
  "gYAN NUMERAL EIGHTaEENhLEVENgFIFTEENfVEdOURaTEENiNINEaTEENiONEdSEVENaTEENiIXaTEENhTENcHIRTEEN",
  "gREEeWELVEeOdZEROrEASURED ANGLEa OPENING LEFT",
  "mWITH OPEN ARM ENDING IN ARROW POINTING DOWN AND LEFTeRIGHToLEFT AND DOWNeUPlRIGHT AND DOWNeUP",
  "mUP AND LEFTeRIGHTzzhBYcRIGHT ANGLE WITH DOTzbT ON BONEkCHANICAL ARMdLEG",
  "mDEFAIDRIN CAPITAL LETTER AaIbTIUeBbCbDbEbFbGbHaPcIbJbKaPcLbMbNaGbYcOaEcPbQbRbSbTbUbVbWbXbYaU",
  "cZpOMMAfDIGIT EIGHTfFIVEdOUReNINEeONEa ALTERNATE FORMsSEVENeIXdTHREEa ALTERNATE FORMtWO",
  "a ALTERNATE FORMsZEROkEXCLAMATION OHoFULL STOPjNUMBER EIGHTEENhLEVENgFIFTEENgOURTEENiNINETEEN",
  "iSEVENTEENiIXTEENhTENcHIRTEENhWELVEnSMALL LETTER AaIbTIUeBbCbDbEbFbGbHaPcIbJbKaPcLbMbNaGbYcOaE",
  "cPbQbRbSbTbUbVbWbXbYaUcZnYMBOL AIVAuIEVAL COMMAfEXCLAMATION MARKqQUESTION MARKsUM BLACK CIRCLE",
  "lOLD WHITE CIRCLErEIGHT POINTED BLACK STARsSPOKED ASTERISKvFIVE SPOKED ASTERISK",
  "tLATTENED LEFT PARENTHESIS ORNAMENTzRIGHT PARENTHESIS ORNAMENTzkOUR POINTED BLACK STAR",
  "kPINWHEEL STARzbGREEK CROSSlLEFT CURLY BRACKET ORNAMENTwPARENTHESIS ORNAMENT",
  "v-POINTING ANGLE BRACKET ORNAMENTzlMATHEMATICAL SPACEsRIGHT CURLY BRACKET ORNAMENT",
  "wPARENTHESIS ORNAMENTv-POINTING ANGLE BRACKET ORNAMENTzmSALTIREgHADEeIX POINTED BLACK STAR",
  "sSPOKED ASTERISKsMALL WHITE CIRCLEsTHREE POINTED BLACK STARkPINWHEEL STARzcVERTICAL BAR",
  "mWHITE CIRCLEgSQUARErETEI MAYEK AHANG KHUDAMlNJIdPUN IYEKjCHEIKHANcEIiDIGIT EIGHTfFIVEdOUR",
  "eNINEeONEdSEVENeIXdTHREEeWOdZEROkLETTER ATIYAfBAbHAMeCHAbILeDDAbHAdHOUdILdEbGHOUdOKdHUKdI",
  "a LONSUMiJHAMdILdKHOUdOKa LONSUMkLAIa LONSUMkMITa LONSUMkNAa LONSUMiGOUa LONSUMkNAcYAdObPA",
  "a LONSUMiHAMeRAIdSAMcHAcSAdTHOUdILa LONSUMjTAbHAeUNcWAIdYANGkUM IYEKiSYLLABLE REPETITION MARK",
  "yVIRAMAfOWEL SIGN AAIbUcNAPdUcCHEINAPhIIbNAPeNUNGeONAPeSOUNAPgUNAPdUcVISARGAhYENAP",
  "qWORD REPETITION MARKzgLONcTING FACEkMOcNDE KIKAKUI COMBINING NUMBER HUNDRED THOUSANDSkS",
  "iMILLIONSiTEENSdN THOUSANDSkSdHOUSANDSzbDIGIT EIGHTfFIVEdOUReNINEeONEdSEVENeIXdTHREEeWO",
  "jSYLLABLE M001 KIe2 KAe3 KUe4 WIe5 WAe6 WUe7 MINf8 MANf9 MUNg10 BIe1 BAe2 BUe3 Id4 Ad5 Ud6 DI",
  "e7 DAe8 DUe9 SIf20 SAe1 SUe2 TIe3 TAe4 TUe5 LIe6 LAe7 LUe8 JIe9 JAf30 JUe1 YIe2 YAe3 YUe4 FI",
  "e5 FAe6 FUe7 NINf8 NANf9 NUNg40 HEEf1 HAe2 HOOf3 NGGAg4 KPEEg5 WOe6 HUANg7 MBEEg8 KOe9 WVA",
  "g50 PUe1 PEe2 HENf3 HINf4 LOOf5 TEe6 GBAf7 NGONg8 NYANg9 MENg60 NYONg1 WVIf2 MBAf3 JOe4 NDO",
  "f5 KEEf6 POe7 NDOOg8 PIe9 TOf70 GBOf1 GBOOg2 MBEf3 LEe4 KPUf5 FEe6 KOOf7 VOe8 FEEf9 SOf80 YE",
  "e1 PEEf2 NGGUg3 HEEIg4 LEEf5 VEe6 LONG NGGEl7 HUNf8 FOe9 DEEg90 NGGIg1 TEEf2 KPAf3 GBEEg4 MON",
  "f5 KEe6 HEe7 BEe8 NYENg9 PAg100 Ed1 FANf2 POOf3 BOOf4 TOOf5 LONG MBOOl6 LONG NGGOOm7 GBEf8 KPE",
  "f9 YEEg10 LONG LEj1 GAe2 KPOOg3 JEe4 WOOf5 NGGEEh6 SEe7 NENf8 WEe9 NDEg20 NGGOg1 YOe2 MBU",
  "f3 NDIf4 GBIf5 NDUf6 WEEf7 NGGUAh8 HOOUg9 NDAg30 HANf1 INe2 KPIf3 FOOf4 NJOOg5 INe6 SOOf7 EI",
  "e8 BOe9 WVEg40 HOe1 YOOf2 LONG MBOk3 WEIf4 VOOf5 MBIf6 NGGEg7 Od8 GBUf9 NJEEh50 BEEf1 VUe2 NJA",
  "f3 LOe4 MUANg5 GIe6 NGGOOh7 JEEf8 KPOf9 NGGAAi60 JOOf1 LONG MBEk2 SEEf3 EEe4 NYINg5 OOe6 GUEI",
  "g7 GUANg8 GUe9 NONg70 NYUNg1 RAe2 MBOOg3 VEEf4 MBOf5 LONG JOj6 HIe7 NGUANh8 ENe9 KUAg80 DOO",
  "f1 DOe2 VIe3 LONG NGGOl4 NGENg5 VAe6 HUe7 MBUUg8 MBEEg9 MUENh90 GEEf1 NDEEg2 NJUf3 HONf4 WUI",
  "f5 ANe6 SIAf7 FUAzdORAH WITH NINE BRANCHESxS SYMBOLjRCURY",
  "eOITIC CURSIVE FRACTION EIGHT TWELFTHSnLEVEN TWELFTHSpFIVE TWELFTHSmOUR TWELFTHSnNINE TWELFTHS",
  "nONE HALFeTWELFTHlSEVEN TWELFTHSnIX TWELFTHSmTEN TWELFTHSlHREE TWELFTHSnWO TWELFTHSvLETTER A",
  "aRCHAIC SAkBAcDAcEbHHAdIbKAbHAdLAcMAcNAbEcObPAcQAcRAcSAbEcTAbEbOcWAcYAiOGOGRAM IMNdRMT",
  "mNUMBER EIGHTa HUNDREDa THOUSANDqTHOUSANDjY THOUSANDpFIFTYa THOUSANDmVEa HUNDREDa THOUSAND",
  "qTHOUSANDmORTYa THOUSANDmURa HUNDREDa THOUSANDqTHOUSANDnNINEa HUNDREDa THOUSANDqTHOUSAND",
  "jTY THOUSANDpONEa HUNDREDa THOUSANDqTHOUSANDmSEVENa HUNDREDa THOUSANDqTHOUSANDjTYa THOUSANDpIX",
  "a HUNDREDa THOUSANDqTHOUSANDjTYa THOUSANDoTENa THOUSANDlHIRTYa THOUSANDnREEa HUNDREDa THOUSAND",
  "qTHOUSANDnWENTYa THOUSANDnOa HUNDREDa THOUSANDqTHOUSANDzcHIEROGLYPHIC LETTER AbBAa-2eDAcEbHHA",
  "dIbKAbHAdLAcMAcNAa-2dEa-2eObPAcQAcRAa-2eSAa-2dEcTAa-2dEa-2dOcWAcYAjSYMBOL VIDJa-2zhPERSON",
  "hSSAGE WAITINGnTRICAL BREVEfLONG OVER SHORTfTWO SHORTSuPENTASEMEjSHORT OVER LONGpTETRASEME",
  "iRISEMEgWO SHORTS JOINEDgOVER LONGzOeIAO LETTER AHbRCHAIC MAcNAbGAdZZAlBAbRIdDAbDAcLHAbYAeZA",
  "bHAcYIcZAeFAcGAbHAbHAeHAbHAdKAcLAbHAbYAdYAdMAbHAdNAaSALIZATIONlGAbHAdHAcNAbHAdYAbHAePAbLAdQA",
  "bGAdREFORMED TONE-1b2b4b5b6b8fSHAmTEdSAbHAcSAcYIdTAbEbLHAbYAeONE-2b3b4b5b6b7b8fSAbEbHAcSAdTA",
  "dVAbFAdWAcXAcYI DZHAeKAcNNAdPAcTAbSAbHAdTAgZAbHAcSAbHAdZAbSAbYAdYAlSIGN ASPIRATION",
  "kCONSONANT MODIFIER BARwREFORMED ASPIRATIONkVOICINGvTONE ABOVEfBELOWfRIGHTfTOP RIGHT",
  "oVOWEL SIGN AaAbEaEcHHcIbNaGcUcEaAbIbNaGcRaRdIaAaNaGdEbGbIbNGcOaNGdUcNaGcOaERbYcGbObU",
  "cROUNDED ERaRlUaAaNaGdEIcIbNGcOGcUcVWcWaOcYaIbUIrCR DASH SYMBOLlON US SYMBOLnO SIGNfBEcPHONE",
  "fSCOPEiDDLE DOTdTHIRD WHITE RIGHT POINTING INDEXzlLINE HORIZONTAL ELLIPSISzLITARY HELMETgMEDAL",
  "lKY WAYgL SIGNhNIBUSdDISCeMIZEfUS SIGNa IN TRIANGLElWITH COMMA ABOVElDOT BELOWjFALLING DOTS",
  "mRISING DOTSvTILDEg-OR-PLUS SIGNpYcRRORa BALLkMSPdOBILE PHONEa OFF",
  "dWITH RIGHTWARDS ARROW AT LEFTzpDELScRN PENTATHLONoI ABBREVIATION SIGNrDANDAeIGIT EIGHTfFIVE",
  "dOUReNINEeONEdSEVENeIXdTHREEeWOdZEROjOUBLE DANDAmLETTER AaAbIbUcBAbHAdCAbHAdDAbDAbHAdHAdEbGA",
  "bHAdHAcIaIcJAbHAdKAbHAdLAbLAdMAcNAbGAcNAcYAdObPAbHAdRAcSAbHAcSAdTAbHAcTAbHAeUaUcVAbOCALIC LaL",
  "cRaRkYAjSIGN ANUSVARAhRDHACANDRAlHUVAeVIRAMAeSARGAmVOWEL SIGN AAbIbUcEbIaIcObUaUcVOCALIC LaLcR",
  "aRwFIER BREVE WITH INVERTED BREVEzLETTER ACUTE ACCENTlLVEOLAR CLICKnPOSTROPHEkBEGIN HIGH TONE",
  "jLOW TONEnILABIAL CLICKoCAPITAL AaEcBaARRED BiCbDbEbFbGbHa WITH STROKEnIbJbKbLbMbNbOaUcPbQbR",
  "aEVERSED EbNkTbUbVbWiENTRED LEFT HALF RINGoRIGHT HALF RINGwHINESE TONE YANG PINGeQUcRUcSHANG",
  "jIN PINGeQUcRUcSHANGvIRCUMFLEX ACCENTqOLONeROSS ACCENTlYRILLIC ENcHARD SIGNjSOFT SIGN",
  "sDENTAL CLICKlOT HORIZONTAL BARoSLASHfVERTICAL BARoUBLE APOSTROPHEkPRIMEkWN ARROWHEADjTACK",
  "jEND HIGH TONEjLOW TONElXTRA-HIGH DOTTED LEFT-STEM TONE BARsTONE BARpLEFT-STEM TONE BAR",
  "sTONE BARnLOW DOTTED LEFT-STEM TONE BARsTONE BARpLEFT-STEM TONE BARsTONE BARsGEORGIAN NAR",
  "lLOTTAL STOPa WITH STROKExRAVE ACCENTmHALF TRIANGULAR COLONuIGH DOTTED LEFT-STEM TONE BAR",
  "sTONE BARpLEFT-STEM TONE BARsTONE BARnLATERAL CLICKmEFT ARROWHEADjHALF RINGjTACK",
  "iOW ACUTE ACCENTmCIRCUMFLEX ACCENTrDOTTED LEFT-STEM TONE BARsTONE BARnWN ARROWHEAD",
  "oGRAVE ACCENTmINVERTED EXCLAMATION MARKzLEFT ARROWaHEADk-STEM TONE BARsMACRONgRIGHT ARROWHEAD",
  "nNGeTILDEeONE BARiUP ARROWHEADmVERTICAL LINEoER RIGHT CORNER ANGLEyMACRON",
  "fID DOTTED LEFT-STEM TONE BARsTONE BARpLEFT-STEM TONE BARsTONE BARjDLE DOUBLE ACUTE ACCENT",
  "mGRAVE ACCENTtGRAVE ACCENTrNUS SIGNkOPEN SHELFkPLUS SIGNiRIMEfRAISED COLONfDOWN ARROW",
  "kEXCLAMATION MARKqINVERTED EXCLAMATION MARKzUP ARROWoETROFLEX CL",
  "ICK WITH RETROFLEX HOOK",
  "ziVERSED COMMAfGLOTTAL STOPa WITH STROKEzhHOTIC HOOKkIGHT ARROWHEADjHALF RINGjTACKkSHELF",
  "dORT EQUALS SIGNqMALL AaEbINcLPHAfBa WITH HOOKkARRED OhETAdOTTOM HALF OnCa WITH CURLkAPITAL AA",
  "cBbGa WITH HOOKlHbIa WITH STROKEmNVERTED RkLa WITH BELTlNbOEcRbUbYiHIcLOSED OMEGA",
  "fREVERSED OPEN EwDa WITH HOOKa AND TAILnTAILkELTAdZH DIGRAPHlOTLESS J WITH STROKEa AND HOOK",
  "zeZ DIGRAPHa WITH CURLeRETROFLEX HOOKzfEaNGcSHcTHcZHdFaENG DIGRAPHmGa WITH HOOKkAMMA",
  "eREEK GAMMAfPHIjHa WITH HOOKeSTROKEmENGa WITH HOOKoI WITH STROKEmOTAeJa WITH CROSSED-TAILtKbL",
  "a WITH BELTeINVERTED LAZY SpMIDDLE TILDEmPALATAL HOOKmRETROFLEX HOOKa AND BELTzeEZH",
  "a WITH RETROFLEX HOOKxIGATURE OEkS DIGRAPHjZ DIGRAPHkMa WITH HOOKlN WITH LEFT HOOK",
  "jRETROFLEX HOOKvOa WITH STROKEmPEN EbOgPaHIdQbRa WITH FISHHOOKiTAILkAMS HORNiEVERSED E",
  "bGLOTTAL STOPmOPEN EpSa WITH CURLeHOOKkCHWAdRIPT GhIDEWAYS UkTa WITH PALATAL HOOK",
  "mRETROFLEX HOOKuC DIGRAPH WITH CURLtESH DIGRAPHlHETAeOP HALF OjS DIGRAPHa WITH RETROFLEX HOOK",
  "zeURNED AaEbLPHAfHbIbMa WITH LONG LEGpOPEN EgRa WITH HOOKeLONG LEGa AND RETROFLEX HOOKzjVbWbY",
  "a WITH BELTsUa BARdWITH LEFT HOOKpPSILONhVa WITH HOOKeRIGHT HOOKrWbXbYbZa WITH CURL",
  "eRETROFLEX HOOKzbTRESS AND HIGH TONEjLOW TONEsUPERSCRIPT HALF TRIANGULAR COLON",
  "vTRIANGULAR COLONzdTRIANGULAR COLONpURNED COMMAmUNASPIRATEDkP ARROWHEADjTACKgScVERTICAL LINE",
  "mOICINGhYANG DEPARTING TONE MARKxIN DEPARTING TONE MARKzlULO TWO SUMmNEY BAGdWITH WINGS",
  "l-MOUTH FACEnGOLIAN BIRGAa WITH DOUBLE ORNAMENTpORNAMENTtCOLONdMMAfDIGIT EIGHTfFIVEdOUReNINE",
  "eONEdSEVENeIXdTHREEeWOdZEROjOUBLE BIRGA WITH ORNAMENTzbELLIPSISiFOUR DOTS",
  "iREE VARIATION SELECTOR FOUReONEdTHREEeWOzbULL STOPjINVERTED BIRGAa WITH DOUBLE ORNAMENT",
  "zkLETTER AaLI GALI AaHbNUSVARA ONEmBALUDAgCAcDAaGALGAfMARUfDAdHALF UbYAhIaNVERTED UBADAMAqKA",
  "cNGAcNAdPAbHAdSSAdTAbHREE BALUDAlTAbHAeUBADAMAhVISARGA ONElZAbHAlNGdBAcCHAa WITH TWO DOTSpIdDA",
  "cEaEcFAcGAcHAAdIbJAcKAbHAdLAbHAdMAaNCHU ALI GALI BHAdCAbYAdDDHAdHAdGHAdJHAdLHAdNGAdSSAdTAbTA",
  "dZAbHAmFAcIbKAcRAcZHAkNAcOaEcPAcQAcRAcSAbHAcIBE ANGdCHAdDAcEbFAcGAaAdHAaAdIaYcJAcKAcPAcRAAdSHA",
  "dTAbSAdUaEcZAbHAiTAbODO ALI GALI TAcZHAlNGdBAcCHAdDAbZAdEbGAaAdHAAdIbJAbIAdKAcLONG VOWEL SIGN",
  "pMAcNIAdOaEcPAcQAcTAbSAdUaEcWAcYAgSAdUaEcWAcYAcZAbHIcRAkMANCHU COMMAfFULL STOPqNIRUGU",
  "gROTATED BIRGAa WITH DOUBLE ORNAMENTpORNAMENTzcSIBE SYLLABLE BOUNDARY MARKERzdWIRL BIRGA",
  "a WITH DOUBLE ORNAMENTpORNAMENTzTODO SOFT HYPHENpRIPLE BIRGA WITH ORNAMENT",
  "zURNED SWIRL BIRGA WITH DOUBLE ORNAMENTzoVOWEL SEPARATORwKEYa FACEiOGRAM FOR EARTHfYANGdIN",
  "mRAILeSTABLE SYMBOLpOD BUBBLEiN CAKEeVIEWING CEREMONYtSQUEbITOgTHER CHRISTMASnOR BOATeSCOOTER",
  "iIZED WHEELCHAIRpWAYgUNT FUJIfAINa BICYCLISTjCABLEWAYiRAILWAYnSEa FACEeTRAPhTHdVIE CAMERAkYAI",
  "eRO DANDAeIGIT EIGHTfFIVEdOUReNINEeONEdSEVENeIXdTHREEeWOdZEROjOUBLE DANDAmLETTER AbBAcCHUdDAaI",
  "dEaAcHAIbOdKEAAEeHAIdOcLAaNdMAEMdIMdNGIcINdOaLbOcPAbHIdRIbOcSHIdTAbEKcHEAeWAcYO",
  "mUCH GREATER-THANmLESS-THANmLTANI LETTER AbBAbHAdCAbHAdDAbDAbDAcHAdHAdEbGAbHAdHAcIbJAbJAdKAbHA",
  "dLAcMAcNAbNAcYAdPAbHAdRAbHAcRAdSAcTAbHAcTAbHAeUbVAcYAjSECTION MARKqIMAPdPLE MUSICAL NOTES",
  "pICATION SIGNa IN DOUBLE CIRCLEnLEFT HALF CIRCLEqRIGHT HALF CIRCLErTRIANGLElWITH DOT ABOVE",
  "jUNDERBARsXlSETa MULTIPLICATIONoUNIONmSHROOMfIC FLAT SIGNjNATURAL SIGNmSHARP SIGNlAL KEYBOARD",
  "a WITH JACKStNOTEeSCOREeYMBOL ARPEGGIATO DOWNeUPnBEGIN BEAMePHRASEgSLUReTIEiRACEbKETfEATH MARK",
  "iVEbISa RESTlC CLEFfAESURAgIRCLE X NOTEHEADqLIMACUSfVISeUSTER NOTEHEAD BLACKfWHITEvODA",
  "cMBINING ACCENTa-STACCATOoUGMENTATION DOTqBENDeDOITcUBLE TONGUElWN BOWiFLAG-1b2b3b4b5eIP",
  "eHARMONICiLOUREfMARCATOa-STACCATOqRIPdSMEAReNAP PIZZICATOnPRECHGESANG STEMqTACCATISSIMOgOgEM",
  "eTENUTOfREMOLO-1b2b3hIPLE TONGUEnUP BOWnMON TIMEkRESCENDOhOIXeUT TIMEiDA CAPOfL SEGNOhMPa ALL",
  "gSHED BARLINEnECRESCENDOjGREE SLASHlOUBLE BARLINEhFLATeSHARPlRUM CLEF-1b2lEIGHTH NOTEeREST",
  "kND BEAMeOF STIMMEjPHRASEgSLUReTIEhF CLEFa OTTAVA ALTAeBASSAsERMATAa BELOWmINAL BARLINE",
  "kGERED TREMOLO-1b2b3qVE-LINE STAFFoLAT DOWNeUPgORTEdUR-LINE STAFFkSTRING FRETBOARDuUSA BLACK",
  "fWHITEkG CLEFa OTTAVA ALTAeBASSAsLISSANDO DOWNeUPlRACE NOTE NO SLASHiSLASHoEGORIAN C CLEF",
  "gF CLEFqHALF NOTEePEDAL MARKkRESThUPTSTIMMElINVERTED TURNnKIEVAN C CLEFgEIGHTH NOTE STEM DOWN",
  "eUPsND OF PIECEmFINAL NOTEjLAT SIGNjHALF NOTEjQUARTER NOTE STEM DOWNeUPuRECITATIVE MARK",
  "pWHOLE NOTEqORONfLEFT REPEAT SIGNpONGAa IMPERFECTA RESTpPERFECTA RESTtMAXIMAfEZZOeINIMAa BLACK",
  "fRESTkOON NOTEHEAD BLACKfWHITEsULTI RESTfPLE MEASURE RESTvNATURAL DOWNeUPjEBENSTIMME",
  "kOTEHEAD BLACKnULL NOTEHEADnONE HUNDRED TWENTY-EIGHTH NOTEeRESTzc-LINE STAFFnRNAMENT STROKE-1",
  "a0b1c2b3b4b5b6b7b8b9qTTAVA ALTAeBASSAmPARENTHESIS NOTEHEADtEDAL MARKeUP MARKlS SUBPUNCTISnIANO",
  "eLUS NOTEHEADmODATUSfRRECTUSa FLEXUSqQUARTER NOTEeRESTeTONE FLATeSHARPqINDICESIMA ALTAeBASSA",
  "sREPEAT DOTSfED FIGURE-1b2b3pVERSE FINAL BARLINEuIGHT REPEAT SIGNpNFORZANDOlSCANDICUSa FLEXUS",
  "pEGNOdMIBREVIS BLACKfRESTeWHITEmMINIMA BLACKfRESTeWHITEpHARP DOWNeUPgORT BARLINEmINGLE BARLINE",
  "mX-LINE STAFFkSTRING FRETBOARDrTEENTH NOTEeRESTkY-FOURTH NOTEeRESTqORIdQUARE BbNOTEHEAD BLACK",
  "fWHITEuUBITOgTEMPUS IMPERFECTUM CUM PROLATIONE IMPERFECTAa DIMINUTION-1b2b3xPERFECTA",
  "zkPERFECTUM CUM PROLATIONE IMPERFECTAkPERFECTAa DIMINUTION-1zzcHIRTY-SECOND NOTEeREST",
  "qREE-LINE STAFFpORCULUSa RESUPINUSrRaIANGLE NOTEHEAD DOWN BLACKfWHITEkLEFT BLACKfWHITE",
  "kRIGHT BLACKfWHITElUP BLACKfRIGHT BLACKfWHITElWHITEs-ROUND NOTEHEAD DOWN BLACKfWHITEziURN",
  "a SLASHfUPgWO-LINE STAFFoVIRGAeOID NOTEHEADnWHOLE NOTEeRESTjITH FINGERNAILSqX NOTEHEADkZpVScW",
  "bYANMAR CONSONANT SIGN MEDIAL HAcRAcWAcYAiON MEDIAL LAcMAcNAnSHAN MEDIAL WAzeDIGIT EIGHTfFIVE",
  "dOUReNINEeONEdSEVENeIXdTHREEeWOdZEROkLETTER AaITON RAhUcBAbHAdCAbHAdDAbDAbHAdHAdE",
  "aASTERN PWO KAREN GHWAeNNAdYWAvGAbHAcREAT SAiHAcIaIcJAbHAdKAbHAaMTI CAbHAdDDAbHAdHAdFAcGAcHA",
  "bHAdJAbHAdLLAdNAbYAdRAcSAcTTAbHAeXAcZAjLAbLAdMAbON BBAbEdEbJHAdNGAhNAbGAcNAbYAdYAdObPAbHAdRA",
  "bUMAI PALAUNG FAqSAbGAW KAREN SHAnHAaN AbBAbHAdCAbHAdDAcFAcGAbHAdHAcJHAdKAbHAdNAbNAcYAdPHAdTHA",
  "dZAfWE PALAUNG CHAdSHApSAdTAaI LAING BAbHAdDAbDAbHAdHAdFAcGAbHAdJAbHAdLLAdNNAcYAmHAcTAbHAeUaU",
  "cVOCALIC LaLcRaRkWAbESTERN PWO KAREN PWAdTHAvYAiOGOGRAM KHAMTI HMcOAYdQN",
  "sMODIFIER LETTER KHAMTI REDUPLICATIONuSHAN REDUPLICATIONzjSHAN DIGIT EIGHTfFIVEdOUReNINEeONE",
  "dSEVENeIXdTHREEeWOdZEROoIGN ANUSVARAhSATeDOT BELOWjKHAMTI TONE-1b3nLITTLE SECTION",
  "oPAO KAREN TONEoRUMAI PALAUNG TONE-5uSECTIONgHAN COUNCIL EMPHATIC TONEnTONE-2b3oSAWdTONE-2b3b5",
  "b6lTAI LAING TONE-2b5qVIRAMAeSARGAhWESTERN PWO KAREN TONE-1b2b3b4b5zdYMBOL AFOREMENTIONED",
  "nITON EXCLAMATIONlONEdTWOjCOMPLETEDjGENITIVEiLOCATIVEiSHAN EXCLAMATIONlONE",
  "pTAI LAING DIGIT EIGHTfFIVEdOUReNINEeONEdSEVENeIXdTHREEeWOdZEROtONE MARK SGAW KAREN HATHI",
  "fKE PHOzcVOWEL SIGN AAbIaTON AaIiEa ABOVEhGEBA KAREN ImIaIcKAYAH EEcOEcUhMON IIcO",
  "fSGAW KAREN EUmHAN AAcEa ABOVEhFINAL YmTALL AAhUaUcVOCALIC LaLcRaRkWESTERN PWO KAREN EUcUE",
  "zoN-ARY CIRCLED DOT OPERATORmPLUS OPERATORnTIMES OPERATORvOPRODUCTjINTERSECTIONmLOGICAL ANDdOR",
  "kPRODUCThSQUARE INTERSECTION OPERATORvUNION OPERATORuUMMATIONjTIMES OPERATORoUNION",
  "a OPERATOR WITH DOTdPLUSyWHITE VERTICAL BARxABATAEAN CRUCIFORM NUMBER FOURvLETTER ALEPHeYIN",
  "eBETHeDALETHgFINAL ALEPHfBETHeHEcKAPHeLAMEDHgMEMdNUNdSHINeYODHkGIMELfHEaTHeKAPHeLAMEDHgMEMdNUN",
  "dPEcQOPHeRESHeSADHEdMEKHfHINeTAWcETHeWAWdYODHeZAYINmNUMBER FIVEdOUReONEa HUNDREDlTENcHREE",
  "eWENTYeOrLAdIL POLISHiRA SIGNiKbME BADGEiNDaINAGARI HEADSTROKEkLETTER AaAbIbUcBAbHAdCAbHAdDA",
  "bDAbHAdHAdEbGAbHAdHAcIaIcJAbHAdKAbHAdLAbLAdMAcNAbGAcNAcYAdObPAbHAdRAbRAdSAbHAcSAdTAbHAcTAbHAeU",
  "aUcVAbOCALIC RaRkYAjSIGN ANUSVARAhVAGRAHAiSIDDHAMhVIRAMAeSARGAmVOWEL SIGN AAbIbUcEbIaIcO",
  "bPRISHTHAMATRA EpUaUcVOCALIC RaRzgRROW NO-BREAK SPACEtTIONAL DIGIT SHAPESmPARKlUSEATED FACE",
  "mZAR AMULETlBHbSPdECKTIEfGATED DOUBLE VERTICAL BAR DOUBLE RIGHT TURNSTILEzuIVE ACKNOWLEDGE",
  "lCIRCLED DIGIT ZEROkLATIN CAPITAL LETTER AbBbCbDbEbFbGbHbIbJbKbLbMbNbObPbQbRbSbTbUbVbWbXbYbZ",
  "wNUMBER EIGHTEENhLEVENgFIFTEENgOURTEENiNINETEENiSEVENTEENiIXTEENhTHIRTEENhWELVEdNTYnSQUARE",
  "gTRIANGLEqDIAGONAL CROSSfDIAMONDhMIDDLE RIGHT TO LOWER CENTREzmSQUARED ABcCROSS MARKkIC",
  "cLATIN CAPITAL LETTER AbBbCbDbEbFbGbHbIbJbKbLbMbNbObPbQbRbSbTbUbVbWbXbYbZwPAcQUESTION MARKnSA",
  "cWCrITHER A SUBSET OF NOR EQUAL TOuPERSET OF NOR EQUAL TOzPPROXIMATELY NOR ACTUALLY EQUAL TO",
  "zkGREATER-THAN NOR EQUAL TOfIVALENT TOnLESS-THANzbLESS-THAN NOR EQUAL TOfIVALENT TO",
  "nGREATER-THANzhLbPTUNEa FORM TWOoRD FACEhSSUSdT WITH EGGSkING DOLLSlUTERcRAL CHESS BISHOP",
  "a ROTATED NINETY DEGREESoTWO HUNDRED SEVENTY DEGREESzrEQUIHOPPERa ROTATED NINETY DEGREESziKING",
  "a ROTATED NINETY DEGREESoTWO HUNDRED SEVENTY DEGREESzoNIGHTa ROTATED FORTY-FIVE DEGREES",
  "sNINETY DEGREESoONE HUNDRED THIRTY-FIVE DEGREESzgTHREE HUNDRED FIFTEEN DEGREES",
  "zdWO HUNDRED SEVENTY DEGREESpTWENTY-FIVE DEGREESzvPAWNa ROTATED NINETY DEGREES",
  "oTWO HUNDRED SEVENTY DEGREESzpQUEENa ROTATED NINETY DEGREESoTWO HUNDRED SEVENTY DEGREESzqROOK",
  "a ROTATED NINETY DEGREESoTWO HUNDRED SEVENTY DEGREESzpTURNED BISHOPgKINGdNIGHTgPAWNeQUEENfROOK",
  "rFACEkW LINEeMOON SYMBOLgWITH FACEoSHEQEL SIGNlTAI LUE DIGIT EIGHTfFIVEdOUReNINEeONEdSEVENeIX",
  "dTHREEeWOdZEROkLETTER FINAL BbDbKbMbNaGcVhHIGH BAcDAcFAcHAcKAbVAdLAcMAcNAbGAdPAbHAdQAcSAbUAdTA",
  "bHAcSAdVAcXAbVAdYAhLOW BAcDAcFAcHAcKAbVAdLAcMAcNAbGAdPAbHAdQAcSAbUAdTAbHAcSAdVAcXAbVAdYA",
  "nSIGN LAEaVjTHAM DIGIT ONEnONE MARK-1b2lVOWEL SIGN AAaYcEbYcEbIIbYcOaAaYcYcUaEaYcUbY",
  "cVOWEL SHORTENERzkA ABBREVIATION SIGNrCOMMAfDANDAeIGIT EIGHTfFIVEdOUReNINEeONEdSEVENeIXdTHREE",
  "eWOdZEROjOUBLE COMMAfDANDAmGAP FILLERkINSERTION SIGNoLETTER AaAbIbUcBAbHAdCAbHAdDAbDAbHAdHAdE",
  "bGAbHAdHAcIaIcJAbHAdKAbHAdLAbHAdMAbHAdNAbGAbHAdHAcNAcYAbHAeObPAbHAdRAbHAdSAbHAcSAdTAbHAcTAbHA",
  "eUaUcVEDIC ANUSVARAnOCALIC LaLcRaRkWAcYAjOMcPLACEHOLDER MARKqSANDHI MARKkIDDHIeGN ANUSVARA",
  "hVAGRAHAiCANDRABINDUlFINAL ANUSVARAoJIHVAMULIYAlNUKTAfUPADHMANIYAlVIRAMAeSARGAmVOWEL SIGN AAbI",
  "bUcEbIaIcObUaUcVOCALIC LaLcRaRxLINE LEFTeRIGHTkSPAPERhXT LINEePAGEiIGHT WITH STARSoNJA",
  "eKO COMBINING DOUBLE DOT ABOVEqLONG DESCENDING TONEpHIGH TONEjLOW TONEiRISING TONE",
  "qNASALIZATION MARKrSHORT HIGH TONEjLOW TONEiRISING TONEyMAfDANTAYALANjIGIT EIGHTfFIVEdOUReNINE",
  "eONEdSEVENeIXdTHREEeWOdZEROjOROME SIGNlEXCLAMATION MARKqHIGH TONE APOSTROPHEuLAJANYALAN",
  "jETTER AbBAcCHAdDAaGBASINNAkEaEcFAcGBAdHAcIbJAbONA CHAdJAcRAhKAcLAcMAcNaAa WOLOSOiYAa WOLOSOkO",
  "aOcPAcRAbRAdSAcTAcUbWAcYAiOW TONE APOSTROPHEtSYMBOL GBAKURUNENkOO DENNENqTAMAN SIGNnLbNBSP",
  "eO BICYCLEShREAK HEREkENTRYa SIGNkMOBILE PHONESnONE UNDER EIGHTEEN SYMBOLzPEDESTRIANSkIRACY",
  "gSMOKING SYMBOLp-BREAK SPACEmMINAL DIGIT SHAPESqSMA SIGNkN-BREAKING HYPHEN",
  "pPOTABLE WATER SYMBOLvFORKINGiRaDIC MARK SIGNnMAL SUBGROUP OFa OR EQUAL TO",
  "zcTH EAST AND SOUTH WEST ARROWtRROWa AND SOUTH EAST ARROWuCROSSING NORTH WEST ARROW",
  "qSOUTH EAST ARROWzWITH HOOKpBLACK ARROWlDOUBLE ARROWmPOINTING BUDdLEAFeVINE LEAF",
  "sSANS-SERIF ARROWqTRIANGLE-HEADED ARROWa TO BARzdWHITE ARROWqINDIC FRACTION ONE EIGHTHgHALF",
  "eQUARTERhSIXTEENTHnTHREE QUARTERSiSIXTEENTHSzPLACEHOLDER MARKqQUANTITY MARKkRTER MARK",
  "mRUPEE MARKqWEST AND SOUTH EAST ARROWtRROWa AND NORTH EAST ARROWuCROSSING NORTH EAST ARROW",
  "zTO CORNERgLONG BARlWITH HOOKpBLACK ARROWlDOUBLE ARROWmPOINTING BUDdLEAFeVINE LEAF",
  "sSANS-SERIF ARROWqTRIANGLE-HEADED ARROWa TO BARzdWHITE ARROWrEAST-POINTING AIRPLANEzSE",
  "cT A SUBSET OFhPERSET OFmLMOST EQUAL TOoN ELEMENT OFmSYMPTOTICALLY EQUAL TOxCHECK MARK",
  "kEQUAL TOfIVALENT TOnGREATER-THANmIDENTICAL TOmLESS-THANjNORMAL SUBGROUP OFa OR EQUAL TO",
  "zfPARALLEL TOlSIGNdQUARE IMAGE OF OR EQUAL TOuORIGINAL OF OR EQUAL TOzfTILDEeRUE",
  "fCHED LEFT SEMICIRCLE WITH THREE DOTSzfOWER RIGHT-SHADOWED WHITE RIGHTWARDS ARROW",
  "zsRIGHT SEMICIRCLE WITH THREE DOTSzhUPPER RIGHT-SHADOWED WHITE RIGHTWARDS ARROWzxEa PADbGE",
  "fBOOKa WITH DECORATIVE COVERzeULaLcMBER EIGHTEEN FULL STOPrLEVEN FULL STOPqFIFTEEN FULL STOP",
  "qOURTEEN FULL STOPsNINETEEN FULL STOPsSEVENTEEN FULL STOPsIGNcXTEEN FULL STOPrTEN FULL STOP",
  "mHIRTEEN FULL STOPrWELVE FULL STOPnNTY FULL STOPuERO SIGNjSHU CHARACTER-1B170b1b2b3b4b5b6b7b8",
  "b9bAbBbCbDbEbFc80b1b2b3b4b5b6b7b8b9bAbBbCbDbEbFc90b1b2b3b4b5b6b7b8b9bAbBbCbDbEbFcA0b1b2b3b4b5",
  "b6b7b8b9bAbBbCbDbEbFcB0b1b2b3b4b5b6b7b8b9bAbBbCbDbEbFcC0b1b2b3b4b5b6b7b8b9bAbBbCbDbEbFcD0b1b2",
  "b3b4b5b6b7b8b9bAbBbCbDbEbFcE0b1b2b3b4b5b6b7b8b9bAbBbCbDbEbFcF0b1b2b3b4b5b6b7b8b9bAbBbCbDbEbF",
  "d200b1b2b3b4b5b6b7b8b9bAbBbCbDbEbFc10b1b2b3b4b5b6b7b8b9bAbBbCbDbEbFc20b1b2b3b4b5b6b7b8b9bAbBbC",
  "bDbEbFc30b1b2b3b4b5b6b7b8b9bAbBbCbDbEbFc40b1b2b3b4b5b6b7b8b9bAbBbCbDbEbFc50b1b2b3b4b5b6b7b8b9",
  "bAbBbCbDbEbFc60b1b2b3b4b5b6b7b8b9bAbBbCbDbEbFc70b1b2b3b4b5b6b7b8b9bAbBbCbDbEbFc80b1b2b3b4b5b6",
  "b7b8b9bAbBbCbDbEbFc90b1b2b3b4b5b6b7b8b9bAbBbCbDbEbFcA0b1b2b3b4b5b6b7b8b9bAbBbCbDbEbFcB0b1b2b3",
  "b4b5b6b7b8b9bAbBbCbDbEbFcC0b1b2b3b4b5b6b7b8b9bAbBbCbDbEbFcD0b1b2b3b4b5b6b7b8b9bAbBbCbDbEbFcE0",
  "b1b2b3b4b5b6b7b8b9bAbBbCbDbEbFcF0b1b2b3b4b5b6b7b8b9bAbBpITERATION MARKsT AND BOLT",
  "lYIAKENG PUACHUE HMONG CIRCLED CAkDIGIT EIGHTfFIVEdOUReNINEeONEdSEVENeIXdTHREEeWOdZERO",
  "kLETTER AaAcCAcDAbLAdEaEcFAcGAcHAaHdIbKAcLAcMAbLAdNAbCAcKAcPAbLAdQAcRAcTAbSAcXAdYAdOaOcPAbLA",
  "dQAcRAbRAdSAcTAbSAcXAdUbVAcWbXAbYAdYAcZAiOGOGRAM NYAJnSIGN FOR ANIMALgINVERTEBRATEmLOCATION",
  "iPERSONgTHINGjXW XWjYLLABLE LENGTHENERtTONE-BbDbGbJbMbSbVzeOBJECT REPLACEMENT CHARACTER",
  "zbLIQUE ANGLE OPENING DOWNeUPqHYPHENmSERVER EYE SYMBOLsCR AMOUNT OF CHECKpBELT BUCKLEkOW TIE",
  "gRANCH BANK IDENTIFICATIONzbCHAIReUSTOMER ACCOUNT NUMBERxDASHdOUBLE BACKSLASHqFORKeHOOK",
  "eINVERTED FORKpTAGONAL SIGNlOPUSgDENdFFICE BUILDINGoGHAM FEATHER MARKmLETTER AILMeBEITHfCEIRT",
  "eOLLeDAIReEABHADHfDHADHfMHANCHOLLlFEARNfGORTeIFINdODHADHhLUISeMUINeNGEADALgIONeONNcRcPEITH",
  "fRUISeSAILdTRAIFgTINNEfUATHdILLEANNhRjREVERSED FEATHER MARKvSPACE MARKoONEKfHM SIGNhIL DRUM",
  "hK HAND SIGNlL CHIKI AHADeDIGIT EIGHTfFIVEdOUReNINEeONEdSEVENeIXdTHREEeWOdZERO",
  "kGAAHLAA TTUDDAAGqLETTER AAJbKbMbWcGbLbNGcTcEDDcNbPbRRdIHbNYcRbScLAaAcEbIbObUcOBbHbTTcVcUCbD",
  "bNNcYjMU TTUDDAGi-GAAHLAA TTUDDAAGtPHAARKAAhUNCTUATION DOUBLE MUCAADnMUCAADsRELAA",
  "mD CHINESE HOOK MARKjITERATION MARKwHUNGARIAN CAPITAL LETTER AaAbKbMBcNDdCLOSE EhEaBbCaHbScDbE",
  "bFbGaYcHbJbKbLaYcMaPcNaCbTa-SHAPED SIGNnYcPbRbSaZcTaYcVbZaSdIaIcNIKOLSBURG OEcUEnOaEEcO",
  "cRUDIMENTA OEcUEmSHORT ERiUaNKcSbUrNUMBER FIFTYdVEeONEa HUNDREDhTHOUSANDmTENkSMALL LETTER AaA",
  "bKbMBcNDdCLOSE EhEaBbCaHbScDbEbFbGaYcHbJbKbLaYcMaPcNaCbTa-SHAPED SIGNnYcPbRbSaZcTaYcVbZaSdIaI",
  "cNIKOLSBURG OEcUEnOaEEcOcRUDIMENTA OEcUEmSHORT ERiUaNKcSbUzITALIC LETTER AbBEcCHEdDEcEaFbKScL",
  "bMbNbRaScSaHbSdHEcIaIcKAbEbHEcUcNORTHERN TSEmObPEbHEdSHEcOUTHERN TSEmTEbHEdUaUcVEcYEcZE",
  "jNUMERAL FIFTYdVEeONEdTENsKEYdNORTH ARABIAN LETTER AINcLEFeBEHdDADbLdES-1b2b3eFEHdGEEMdHAIN",
  "fHAHcEHdKAFcHAHeLAMdMEEMeNOONeQAFdREHdSADdTAHcEHcHALcEHeWAWdYEHdZAHbINlNUMBER ONEdTENcWENTY",
  "zcPERMIC LETTER ANcBURdCHERYfDOIcZHOIdITAfEaFcGAIdHAcIaAbEcKOKEeLEIdMENOEfNENOEfOaOcPEEIeREI",
  "dSHCHOOIfOOIeIIdTAIcSIUeUbVERcOOIeYAaTcERaIbUdRYcUcZATAdHOIpSIAN NUMBER HUNDREDhONEdTENcWENTY",
  "eOkSIGN AaURAMAZDAAa-2cHAmBAaGAdUUMISHhCAcDAaHYAAUSHa-2kIbUcFAcGAbUcHAcIbJAbIcKAbUcLAcMAbIbU",
  "cNAbUcPAcRAbUcSAbHAcSAdTAbHAcUcUbVAbIcXAbSHAAYATHIYAmYAcZAhWORD DIVIDERqONAL COMPUTER",
  "rSOGDIAN FRACTION ONE HALFrLETTER ALEPHdTERNATE AYINnYINeBETHeFINAL ALEPHfBETHeHEcNUN",
  "a WITH VERTICAL TAILwSADHEa WITH VERTICAL TAILyTAWa WITH VERTICAL TAILzdGIMELfHEaTHeKAPH",
  "eLAMEDHgMEMdNUNdPEcRESH-AYIN-DALETHqSADHEdMEKHfHINeTAWdWAWdYODHeZAYINlIGATURE AYIN-DALETH",
  "uNUMBER FIVEdOUReONEa HUNDREDlTENcHIRTYeREEeWENTYeOqUTH ARABIAN LETTER ALEFdYNdBETHeDALETH",
  "fHADHEdLETHhFEcGHAYNeIMELfHEaTHeKAPHdHETHfLAMEDHgMEMdNUNdQOPHeRESHeSADHEdMEKHeTcHINeTAWcETH",
  "dHAWcETHfWAWdYODHeZAYNlNUMBER FIFTYfONEhERIC INDICATORzgTURKIC LETTER ORKHON AaBbDbEBbDbGbKbL",
  "bNbRbSbTbYcGbLbNbQbRbSaHcTbYcBASHeECbLTcMbNCbGbTbYcPbSHcZcIaCbQcOaEaKcPbQbTjYENISEI AaBbDbEaB",
  "bGbKbNaGcTbYcGbLbNGcQbRbSHcTbYcEaCbNCbTbYcSHcZcIaQcOEaKcQyUYGHUR COMBINING DOT ABOVEfBELOW",
  "jTWO DOTS ABOVEfBELOWyLETTER ALEPHfBETHeFINAL HETHkGIMEL-HETHkKAPHeLAMEDHfESHeMEMdNUNdPEcRESH",
  "eSADHEdMEKHfHINeTAWdWAWdYODHeZAYINmPUNCTUATION BARdFOUR DOTSjTWO BARSeDOTSzdER ADULTfMANdWOMAN",
  "jIVEeM SYMBOLiN WITH EXCLAMATION MARK WITH LEFT RIGHT ARROW ABOVEzzCOMING AUTOMOBILEkBUS",
  "dFIRE ENGINElPOLICE CARkTAXIlE BUTTON MOUSEmDOT LEADERgOVER TWO DOTS PUNCTUATION",
  "zf-PIECE SWIMSUITqIONePEN BOOKcXdCENTRE ASTERISKiBLACK STARkCROSSfTEARDROP-SPOKED ASTERISK",
  "zgFILE FOLDERkOLDERgHANDS SIGNkLOCKeMAILBOX WITH LOWERED FLAGmRAISED FLAGySUBSETePERSET",
  "j-CIRCUIT-OUTPUT H-TYPE SYMBOLnL-TYPE SYMBOLzdOUTLINED RIGHTWARDS ARROWzcRATING SYSTEM COMMAND",
  "wHIUCHUShPOSITIONiTICAL DISCa ICONnON KEYjR WITH DOT INSIDEqANGE BOOKeHEARThUTANhIGINAL OF",
  "iYA AI LENGTH MARKnU LENGTH MARKoDIGIT EIGHTfFIVEdOUReNINEeONEdSEVENeIXdTHREEeWOdZERO",
  "kFRACTION ONE EIGHTHgHALFeQUARTERhSIXTEENTHnTHREE QUARTERSiSIXTEENTHSzISSHARgLETTER AaAbIbUcBA",
  "bHAdCAbHAdDAbDAbHAdHAdEbGAbHAdHAcIaIcJAbHAdKAbHAdLAbLAdMAcNAbGAcNAcYAdObPAbHAdRAbHAcRAdSAbHA",
  "cSAdTAbHAcTAbHAeUaUcVAbOCALIC LaLcRaRkWAcYAbYAkSIGN ANUSVARAhVAGRAHAiCANDRABINDUlNUKTA",
  "fOVERLINEiVIRAMAeSARGAmVOWEL SIGN AAbIbUcEbIaIcObUaUcVOCALIC LaLcRaRzNATE LEFT PARENTHESIS",
  "qRIGHT PARENTHESISwTHODOX CROSSnSAGE CAPITAL LETTER AaHbIaNdBRAdCHAdDHAdEaHCHAdKAcPAcTAbSAeIN",
  "dGHAdHAbYAdIbKAbHAcYAdLAcMAcNAcOaINdPAcSAbHAdTAbSAbHAeUbWAcZAbHAsSMALL LETTER AaHbIaNdBRAdCHA",
  "dDHAdEaHCHAdKAcPAcTAbSAeINdGHAdHAbYAdIbKAbHAcYAdLAcMAcNAcOaINdPAcSAbHAdTAbSAbHAeUbWAcZAbHAuC",
  "bMANYA DIGIT EIGHTfFIVEdOUReNINEeONEdSEVENeIXdTHREEeWOdZEROkLETTER AaAbLEFeBAcCAYNeDEELdHAdEaE",
  "cFAcGAcHAcIbJAcKAAFdHAdLAANeMIINeNUUNeOaOcQAAFeRAcSAbHIINfTAcUbWAWdXAcYAqTTER",
  "cOMAN SIYAQ ALTERNATE NUMBER EIGHTfFIVEdOURa HUNDREDmNINEeSEVENeIXa HUNDREDlTENa THOUSANDlHREE",
  "eWOa THOUSANDzeFRACTION ONE HALFeSIXTHsMARRATANiNUMBER EIGHTa HUNDREDhTHOUSANDjYa THOUSAND",
  "pFIFTYa THOUSANDmVEa HUNDREDhTHOUSANDmORTYa THOUSANDmURa HUNDREDhTHOUSANDnNINEa HUNDRED",
  "hTHOUSANDjTYa THOUSANDpONEa HUNDREDhTHOUSANDmSEVENa HUNDREDhTHOUSANDjTYa THOUSANDpIXa HUNDRED",
  "hTHOUSANDjTYa THOUSANDoTENa THOUSANDlHIRTYa THOUSANDnREEa HUNDREDhTHOUSANDnWENTYa THOUSANDnO",
  "a HUNDREDhTHOUSANDzhUNCE SIGNiTBOX TRAYiLINED BLACK STARkGREEK CROSSlLATIN CROSSlWHITE STAR",
  "sVERHEATED FACElLAPaPING BLACK SQUARESnWHITE AND BLACK SQUARESrSQUARESuINEhWLcXbYSTERgPACKAGE",
  "fDaDING CHARACTERpGEa FACING UPjWITH CIRCLED TEXTlURLkRbScODAeHAWH HMONG CLAN SIGN FAJdHAMbWJ",
  "eKHABdOOcWMdLAUJdISdMUASePHABeTHOJdSABcHEEJeWBeVAJcWJdXYOOJfYAJcEEGnONSONANT AUcCAUcHAUeHAU",
  "cLAUdNAUeLAUdMAUdNAUcCHAUeKAUdLAUdTHAUdSAUfPLHAUfQHAUeRAUdVAUdXAUdYAUnDIGIT EIGHTfFIVEdOUR",
  "eNINEeONEdSEVENeIXdTHREEeWOdZEROkMARK CIM HOMdKEScHAVeSObUAMeTAUMdUBmNUMBER HUNDRED MILLIONSjS",
  "iMILLIONSiTEN BILLIONSiTHOUSANDSkSdRILLIONSqSIGN AVcCIM CHEEMeUAM TSHOOJlHAIS LUS NTOG NTOG",
  "sNRES TOSiPUB DAWBiTSOV ROGhXWVa CHWVnHLIcNUBeIB YAMgLOSdMEEJ SUABeTSEEBjUSdNQIGdTUJeTAU",
  "cHIRD-STAGE HLIoXHEEJ CEEVlVOS FEEMeLUBdNRUAeSEEVeTHIABdOMdSHAB CEEBoXAUSdIABdYEEM FAIBeNTXIV",
  "fRHOdTOVhOOeZWJ THAJnVOWEL KAABbVcBbIBbVcUBbVcVbWBbVdEBbEBbVcVcIABbVcBbVcOBbOBbVcVcUABbVcBbV",
  "cWBbVuLLASdM BRANCHgDOWN HANDjTREEeUP HANDiS UP TOGETHERnYRENE LEFT-POINTING FLEURON",
  "tTTER ALEPHeYINeBETHeDALETHgFINAL NUNjGIMELfHEaTHeKAPHeLAMEDHgMEMdNUNdPEcQOPHeRESHeSADHEdMEKH",
  "fHINeTAWcETHeWAWdYODHeZAYINmNUMBER FIVEdOUReONEdTENcHREEeWENTYeOkRIGHT-POINTING FLEURON",
  "zfNCAKESfDA FACEiPERCLIPhRACHUTEfGRAPH SEPARATORkOScUS MARKmLLEL TOcWITH HORIZONTAL STROKE",
  "rTILDE OPERATORzENTHESIZED DIGIT EIGHTfFIVEdOUReNINEeONEdSEVENeIXdTHREEeWOjHANGUL CHIEUCHa A",
  "iIEUCa AbUhHIEUHa AhIEUNGa AhKHIEUKHa AiIYEOKa AiMIEUMa AhNIEUNa AhPHIEUPHa AiIEUPa AhRIEULa A",
  "hSIOSa AgTHIEUTHa AiIKEUTa ApIDEOGRAPH ALLIANCEiCALLdONGRATULATIONoEARTHeIGHTeNTERPRISE",
  "kFESTIVALhINANCIALhREcVEdOUReHAVEeLABORfMETALeOONeNAMEdINEeONEdREACHdPRESENThSOURCEfTeSELFcVEN",
  "eIXcOCIETYgPECIALgTOCKdUDYeUNbPERVISEjTENcHREEeWOdWATEReOODoKOREAN CHARACTER O HUdJEON",
  "wLATIN CAPITAL LETTER AbBbCbDbEbFbGbHbIbJbKbLbMbNbObPbQbRbSbTbUbVbWbXbYbZqSMALL LETTER AbBbCbD",
  "bEbFbGbHbIbJbKbLbMbNbObPbQbRbSbTbUbVbWbXbYbZuNUMBER EIGHTEENhLEVENgFIFTEENgOURTEENiNINETEEN",
  "iSEVENTEENiIXTEENhTENcHIRTEENhWELVEdNTYyROTdT ALTERNATION MARKrIAL DIFFERENTIALmLINE BACKWARD",
  "iDOWNeFORWARDhUPiLY-RECYCLED PAPER SYMBOLzcNERSHIP SIGNmY POPPERkSSED SYMBOLiNGER SHIP",
  "kIVE-PULL-DOWN-OUTPUT SYMBOLsUP-OUTPUT SYMBOLzPORT CONTROLoU CIN HAU GLOTTAL STOPa FINAL",
  "fVARIANTuLETTER AbBAcCAbHAdDAcEbFAbINAL KbLbMbNaGcPbTbWbYhGAcHAcIaAcKAbHAdLAcMAcNAbGAdObPAbHA",
  "dRAcSAcTAbHAdUaAcVAcZAiOW-FALLING TONEa FINALfLONGa FINALzcMID-LEVEL TONEa FINALfLONG FINAL",
  "zRISING TONEa FINALfLONGa FINALwSANDHI GLOTTAL STOPa FINALsTONEa FINALfLONGa FINALzhW PRINTS",
  "jDFbIcEACE SYMBOLiHbOCKeNUTSeRcDESTRIANiN OVER STAMPED ENVELOPEwCILdGUINeSIVE FACEjTAGRAM",
  "hOPLE HUGGINGmR MILLE SIGNkSIGNeTEN THOUSAND SIGNsCENT SIGNjFORMING ARTSmMANENT PAPER SIGN",
  "rPENDICULARa WITH SrSEVERING FACEmON BOWING DEEPLYnCLIMBINGiDOING CARTWHEELpFROWNING",
  "iIN LOTUS POSITIONoSTEAMY ROOMoRAISING BOTH HANDS IN CELEBRATIONziWITH BALLdLOND HAIRkCROWN",
  "fFOLDED HANDSmHEADSCARFjPOUTING FACEsAL COMPUTERnPECTIVEjSETA SIGNiO SIGNhTRI DISH",
  "jHAGS-PA DOUBLE HEAD MARKqLETTER AaLTERNATE YAlSPIRATED FAmBAcCAaNDRABINDUkHAdDAbDAcZAdEaEcFA",
  "cGAbGAdHAcIbJAcKAbHAdLAcMAcNAbGAcNAcYAdObPAbHAdQAcRAcSAbHAcMALL AhTAbHAcSAbHAdTAbHAeU",
  "bVOICED HAeLESS SHAnWAcXAcYAcZAbHAkMARK DOUBLE SHADlSHADjSINGLE HEAD MARKpUBJOINED LETTER RA",
  "cWAcYArPERFIXED LETTER RAzbISTOS DISC SIGN ARROWfBEEaHIVEgOOMERANGhWcULLS LEGjCAPTIVE",
  "fRPENTRY PLANEnTcHILDeLUBdOLUMNeMBaINING OBLIQUE STROKEyDOLIUMeVEeEAGLEfFLUTEfGAUNTLEThRATER",
  "gHELMETfIDEdORNeLIDbLYeMANACLESgTTOCKhOX BACKhPAPYRUSgEDESTRIANjLANE TREEiUMED HEADlRAMcOSETTE",
  "hSAWcHIELDdPdLINGeMALL AXEiTRAINERiTATTOOED HEADmIARAeUNNYfVINEeWAVY BANDiOMAN",
  "wILIPPINE DOUBLE PUNCTUATIONsSINGLE PUNCTUATIONzcOENICIAN LETTER AINcLFdBETdDELTeGAMLeHEaTdKAF",
  "dLAMDeMEMdNUNdPEcQOFdROSHeSADEdEMKdHINeTAUcETdWAUdYODdZAIkNUMBER ONEa HUNDREDlTENcHREEeWENTYeO",
  "kWORD SEPARATORwLUSfICKaUP TRUCKkEbGa FACEeNOSEgLCROW SIGNjE OF POOiLcNATAdCHED FINGERS",
  "kING HANDkE DECORATIONlAPPLEgWHEEL STARlSCESdTOLeTCHFORKa WITH TEE TOPvLACARD",
  "dE OF INTEREST SIGNnWORSHIPnNCK CONSTANTa OVER TWO PIyYGROUND SLIDEmING CARD ACE OF CLUBS",
  "fDIAMONDSiHEARTSgSPADESnBACKdLACK JOKERlEIGHT OF CLUBSfDIAMONDSiHEARTSgSPADESpFIVE OF CLUBS",
  "fDIAMONDSiHEARTSgSPADESnOOLcUR OF CLUBSfDIAMONDSiHEARTSgSPADESoJACK OF CLUBSfDIAMONDSiHEARTS",
  "gSPADESoKING OF CLUBSfDIAMONDSiHEARTSgSPADESnNIGHT OF CLUBSfDIAMONDSiHEARTSgSPADES",
  "qNINE OF CLUBSfDIAMONDSiHEARTSgSPADESoQUEEN OF CLUBSfDIAMONDSiHEARTSgSPADESpRED JOKER",
  "jSEVEN OF CLUBSfDIAMONDSiHEARTSgSPADESoIX OF CLUBSfDIAMONDSiHEARTSgSPADESnTEN OF CLUBS",
  "fDIAMONDSiHEARTSgSPADESmHREE OF CLUBSfDIAMONDSiHEARTSgSPADESoRUMP-1a0b1b2b3b4b5b6b7b8b9c2a0b1",
  "c3b4b5b6b7b8b9gWO OF CLUBSfDIAMONDSiHEARTSgSPADESnWHITE JOKERwDbUaNGEReS SIGN",
  "a ABOVE EQUALS SIGNrIN LEFT HALF CIRCLEqRIGHT HALF CIRCLErTRIANGLElWITH BLACK TRIANGLE",
  "oCIRCUMFLEX ACCENT ABOVExDOT BELOWjSMALL CIRCLE ABOVErUBSCRIPT TWOnTILDE ABOVEfBELOW",
  "w-MINUS SIGNmTOa FORM FIVEdOUReTHREEeWOnMbOCKET CALCULATORpLICE CARaS REVOLVING LIGHTuOFFICER",
  "mODLEeP DIRECTIONAL FORMATTINGkISOLATEuCORNfRTABLE STEREOnSEIDONfITION INDICATORpTAL HORNeMARK",
  "a FACEmBOXfT OF FOODiABLE WATER SYMBOLqTOdTED PLANTkUCHcLTRY LEGiND SIGNhRING LIQUID",
  "lTING CAT FACEiFACEkWER ON SYMBOLh-OFF SYMBOLnSLEEP SYMBOLlYMBOLlRAYER BEADSkECEDES",
  "a ABOVE ALMOST EQUAL TOpEQUALS SIGNlNOT ALMOST EQUAL TOpEQUAL TOmSINGLE-LINE EQUALS SIGN",
  "lNOT EQUAL TOzfBUT NOT EQUIVALENT TOvOR EQUAL TOfIVALENT TOqUNDER RELATIONuGNANT MANdPERSON",
  "gWOMANlSCRIPTION TAKEnENTATION FORM FOR VERTICAL COLONdMMAfEM DASHgN DASHgXCLAMATION MARK",
  "qHORIZONTAL ELLIPSIStIDEOGRAPHIC COMMAfFULL STOPvLEFT ANGLE BRACKETnBLACK LENTICULAR BRACKET",
  "yCORNER BRACKETnURLY BRACKETnDOUBLE ANGLE BRACKETuPARENTHESISlSQUARE BRACKET",
  "oTORTOISE SHELL BRACKETwWHITE CORNER BRACKEToLENTICULAR BRACKETzdOW LINEiQUESTION MARK",
  "nRIGHT ANGLE BRACKETnBLACK LENTICULAR BRACKETyCORNER BRACKETnURLY BRACKETnDOUBLE ANGLE BRACKET",
  "uPARENTHESISlSQUARE BRACKEToTORTOISE SHELL BRACKETwWHITE CORNER BRACKEToLENTICULAR BRACKET",
  "eKCETzfSEMICOLONjTWO DOT LEADERoWAVY LOW LINEzqTZELeVIOUS PAGElIMEcNCEaSSeT SCREEN SYMBOLoER",
  "a ICONjVACY MESSAGEkTE USE ONEdTWOe-1b2lOBING CANEjHIBITED SIGNmJECTIVEhPERTY LINEjORTION",
  "aAL TOmSERPINAjSALTER PAHLAVI FOUR DOTS WITH CROSSfDOTsLETTER ALEPHfBETHeDALETHgGIMELfHEaTH",
  "eKAPHeLAMEDHgMEM-QOPHiNUNdPEcSADHEdMEKHfHINeTAWdWAW-AYIN-RESHnYODHeZAYINmNUMBER FOUReONE",
  "a HUNDREDlTENcHREEeWENTYeOkSECTION MARKmTURNED SECTION MARKzjU1b2bBLIC ADDRESS LOUDSPEAKER",
  "yNCTUATION SPACElS ELEVATUS MARKtRPLE HEARTjSEdSHPINfT LITTER IN ITS PLACE SYMBOL",
  "zfQUADRANT LOWER LEFTeRIGHTlUPPER LEFTa AND LOWER LEFT AND LOWER RIGHTuRIGHT",
  "lUPPER RIGHT AND LOWER LEFTeRIGHTzlRIGHTa AND LOWER LEFTa AND LOWER RIGHT",
  "zvUPLE INTEGRAL OPERATORrPRIMEmRTER NOTEjTERNION INTEGRAL OPERATORzbESTION EXCLAMATION MARK",
  "qMARKfED EQUAL TOrINCUNXgOTATION MARKoRABBITa FACEjCCOONeING CARdMOTORCYCLE",
  "pDICAL SYMBOL BOTTOMrOa BUTTONhACTIVE SIGNoILWAY CARdTRACKkNaBOWeSED BACK OF HANDmCOMMAfDOT",
  "aTED INTERPOLATION MARKERzcFISTeHANDa WITH FINGERS SPLAYED",
  "pPART BETWEEN MIDDLE AND RING FINGERSzvINTERPOLATION MARKERuMC SIGNgD SIGNgR SIGNhSQUARElMbT",
  "aIOdZOReECEIPTeORD SEPARATORnREATIONAL VEHICLErYCLED PAPER SYMBOL",
  "pING SYMBOL FOR GENERIC MATERIALSrTYPE-1 PLASTICSk2 PLASTICSk3 PLASTICSk4 PLASTICSk5 PLASTICS",
  "k6 PLASTICSk7 PLASTICSzjD APPLEfGIFT ENVELOPEpFERENCE MARKmGIONAL INDICATOR SYMBOL LETTER AbB",
  "bCbDbEbFbGbHbIbJbKbLbMbNbObPbQbRbSbTbUbVbWbXbYbZzfSTERED SIGNnJANG CONSONANT SIGN HbNaGcR",
  "qLETTER AbBAcCAcDAcGAcHAcJAcKAcLAcMAbBAdNAbDAcGAbGAdYAbJAePAcRAcSAcTAcWAcYAjSECTION MARK",
  "mVIRAMAfOWEL SIGN AIbUcEaAbUcIbObUrLIEVED FACElMINDER RIBBONnPLACEMENT CHARACTERtSPONSE",
  "fTRICTED LEFT ENTRY-1b2sOOMgTURN LEFTeRIGHTfSYMBOLlVERSE CHECKER BOARDnINDEX",
  "fLIGHT FOUR POINTED PINWHEEL STARzfNE FEEDjSOLIDUSa OPERATORiPRECEDING SUBSET",
  "qWITH HORIZONTAL STROKEzfTILDE OPERATOR ABOVE LEFTWARDS ARROWpRIGHTWARDS ARROWznD ANGLE",
  "a WITH UNDERBARtCOMMAfDOUBLE PRIMEa QUOTATION MARKuSTROKE NOT SIGNwEMPTY SET",
  "jFORKED PARAGRAPHOSsHAND WITH MIDDLE FINGER EXTENDEDzhNOT SIGNiPILCROW SIGNlRIMEfQUESTION MARK",
  "nRAISED HAND WITH FINGERS SPLAYEDzgIGHT ANGLEkOTATED FLORAL HEART BULLETzcSANS-SERIF CAPITAL L",
  "tEMICOLONjTHUMBS DOWN SIGNjUP SIGNnILDEa EQUALSlRIPLE PRIMEmVICTORY HANDsOLVING HEARTS",
  "pHINOCEROSjIaAL SIGNhBBONa ARROW DOWN LEFTeRIGHTkLEFT DOWNeUPhRIGHT DOWNeUPiUP LEFTeRIGHT",
  "tCE BALLeCRACKERkFLEdGHT AND LOWER ONE EIGHTH BLOCKwUPPER ONE EIGHTH BLOCKyGER BUBBLEjLE",
  "a BRACKETa WITH DOTqDOTTED SUBSTITUTION MARKERzbSUBSTITUTION MARKERtVARIANT WITH SQUARE",
  "tWITH ARCdDOWNWARDS ZIGZAG ARROWzhRC GREATER-THAN BRACKETwROW WITH CIRCLED PLUSmSMALL CIRCLE",
  "xBLACK LENTICULAR BRACKETsTORTOISE SHELL BRACKETzdCEILINGgORNER BRACKETnURLY BRACKET",
  "a LOWER HOOKkMIDDLE PIECEmUPPER HOOKyDOTTED SUBSTITUTION BRACKETzUBLE ANGLE BRACKET",
  "mRROW WITH ROUNDED HEADxPARENTHESISlQUOTATION MARKoWIGGLY FENCEtFISH TAILhVE EIGHTHS BLOCK",
  "rLOORfHALF BLACK CIRCLEgSTARiOCKfFOLDERgMEDIUM SHADEmRUNNING MANoND TELEPHONE RECEIVER",
  "xLOW PARAPHRASE BRACKETwNORMAL FACTOR SEMIDIRECT PRODUCTzhONE EIGHTH BLOCKmQUARTER BLOCK",
  "qPEN SQUARED DOTpUTER JOINkPARENTHESISa EXTENSIONjLOWER HOOKkUPPER HOOK",
  "wRAISED OMISSION BRACKETxS-SHAPED BAG DELIMITERvEMIDIRECT PRODUCTqVEN EIGHTHS BLOCK",
  "sIDEWAYS U BRACKETqNGLE QUOTATION MARKuPEAKERa WITH ONE SOUND WAVEoTHREE SOUND WAVES",
  "zcECH BUBBLEmQUARE BRACKETa EXTENSIONjLOWER CORNERmUPPER CORNERmWITH DOUBLE STROKEnQUILL",
  "fSTROKEgTICK IN BOTTOM CORNERnTOP CORNERsUNDERBARzcUBSTITUTION BRACKETuTACK",
  "dHIRD WHITE RIGHT POINTING INDEXzfOUGHT BUBBLEmREE EIGHTHS BLOCKnQUARTERS BLOCK",
  "tORTOISE SHELL BRACKETvRANSPOSITION BRACKETtIANGLEa ABOVE LEFT TRIANGLEwULAR ONE QUARTER BLOCK",
  "zdVERTICAL BAR WITH QUILLnOX LINErWHITE CORNER BRACKETnURLY BRACKETnLENTICULAR BRACKET",
  "sPARENTHESISlSQUARE BRACKEToTORTOISE SHELL BRACKETzcIGGLY FENCEn-FACING ARMENIAN ETERNITY SIGN",
  "wFISTeSVASTI SIGNa WITH DOTSzdHANDED INTERLACED PENTAGRAMzcPOINTING ANGLE BRACKET",
  "nCURVED ANGLE BRACKETuDOUBLE ANGLE QUOTATION MARKzcMAGNIFYING GLASS",
  "zSHADED WHITE RIGHTWARDS ARROWzdIDE ARC CLOCKWISE ARROWyTO-LEFT EMBEDDINGjISOLATEhMARK",
  "eOVERRIDErHAND INTERIOR PRODUCTvWARDS ARROWa ABOVE ALMOST EQUAL TOpREVERSE ALMOST EQUAL TO",
  "pTILDE OPERATORwSHORT LEFTWARDS ARROWvTILDE OPERATORtND UPPER AND LOWER ONE EIGHTH BLOCK",
  "zlFROM BARa TO BLACK DIAMONDzOVER LEFTWARDS ARROWuTHROUGH GREATER-THANmSUPERSETiXiO BAR",
  "cLACK DIAMONDqWITH CORNER DOWNWARDSqDOTTED STEMjUBLE VERTICAL STROKEwEQUILATERAL ARROWHEAD",
  "vHOOKeLARGE TRIANGLE ARROWHEADxOOPeMEDIUM TRIANGLE ARROWHEADzNOTCHED TAILmPLUS BELOW",
  "kSMALL EQUILATERAL ARROWHEADvTRIANGLE ARROWHEADxTROKEgTAILa WITH DOUBLE VERTICAL STROKE",
  "wVERTICAL STROKEyIP DOWNWARDSjUPWARDSlVERTICAL STROKEv-TAILkBACK-TILTED SHADOWED WHITE ARROW",
  "zgLACK ARROWfCIRCLED WHITE ARROWyOTTOM SHADED WHITE ARROWzCOMPRESSED ARROWqDASHED ARROW",
  "lOUBLE ARROWa FROM BARiWITH STROKEgVERTICAL STROKEv-TAILkDASH ARROWrFINGER-POST ARROW",
  "qRONT-TILTED SHADOWED WHITE ARROWziHANDcRPOON OVER LEFTWARDS HARPOON",
  "wWITH BARB DOWN ABOVE LEFTWARDS HARPOON WITH BARB DOWNznBELOW LONG DASHpFROM BARiTO BARhWARDS",
  "jUP ABOVE LEFTWARDS HARPOON WITH BARB UPzeONG DASHjRIGHTWARDS HARPOON WITH BARB DOWNzoFROM BAR",
  "iTO BARhWARDSyEAVY ARROWfCOMPRESSED ARROWwLEFT-SHADED WHITE ARROWxOPEN-HEADED ARROW",
  "rPAIRED ARROWSnQUADRUPLE ARROWpRIGHT-SHADED WHITE ARROWxOCKETgSANS-SERIF ARROWpQUARED ARROW",
  "kIGGLE ARROWoTOP SHADED WHITE ARROWvRIANGLE ARROWHEADk-HEADED ARROW",
  "a OVER LEFTWARDS TRIANGLE-HEADED ARROWzlTO BARgWITH BOLD SHAFTkDOUBLE HORIZONTAL STROKE",
  "rVERTICAL STROKEwHEAVY SHAFTlLONG TIP DOWNWARDSjUPWARDSqMEDIUM SHAFTmNARROW SHAFT",
  "mVERY HEAVY SHAFTzcDASHED ARROWmPAIRED ARROWSzbPLE ARROWfDASH ARROWqWO HEADED ARROW",
  "n-HEADED ARROW FROM BARiWITH DOUBLE VERTICAL STROKEwTAILa WITH DOUBLE VERTICAL STROKE",
  "wVERTICAL STROKEyRIANGLE ARROWHEADStVERTICAL STROKEzbTRIPLE DASH ARROWzdWAVE ARROWjHITE ARROW",
  "a FROM WALLjWITHIN TRIANGLE ARROWHEADzvNGa ABOVEfBUOYeEQUAL TOiIN EQUAL TOlOPERATORiPOINT",
  "gED PLANETjING BELLkSING DIAGONAL CROSSING FALLING DIAGONALqSOUTH EAST ARROWzpLEbIbMbO",
  "cOASTED SWEET POTATOsBOT FACEiCKaETeLL OF PAPERjED-UP NEWSPAPERoR COASTERhSKATE",
  "iING ON THE FLOOR LAUGHINGzcMAN AS SIGNhCENTURIAL SIGNoDENARIUS SIGNmIMIDIA SEXTULA SIGN",
  "tUPONDIUS SIGNoNUMERAL EIGHTeLEVENgFIFTYa EARLY FORMkTHOUSANDmVEa HUNDREDhTHOUSANDmOUReNINE",
  "eONEa HUNDREDa THOUSANDqTHOUSANDa C DqREVERSED ONE HUNDREDuSEVENeIXa LATE FORMnTENa THOUSAND",
  "lHREEeWELVEeOlQUINARIUS SIGNoSEMUNCIA SIGNlSTERTIUS SIGNnXTANS SIGNiULA SIGNlILIQUA SIGN",
  "mUNCIA SIGNoOSTERfSEaTTEfTATED CAPITAL QjFLORAL HEART BULLETtHEAVY BLACK HEART BULLET",
  "yLIGHT FOUR POINTED BLACK CUSPzeWHITE FOUR POINTED CUSPzeUND PUSHPINhTARGEThED SYMBOL FOR CAI",
  "dFUcLUcSHOUcUANGXIiXItWBOATgSbUBLE SIGNiGBY FOOTBALLmLE-DELAYEDkMI DIGIT EIGHTfFIVEdOUReNINE",
  "eONEdSEVENeIXdTHREEeWOjFRACTION ONE HALFeQUARTERhTHIRDjTWO THIRDStNUMBER EIGHT HUNDREDiYgFIFTY",
  "dVE HUNDREDlORTYdUR HUNDREDmNINE HUNDREDiTYgONE HUNDREDlSEVEN HUNDREDiTYgIX HUNDREDiTYfTEN",
  "cHIRTYeREE HUNDREDmWENTYeO HUNDREDvNIC ARLAUG SYMBOLnBELGTHOR SYMBOLpCROSS PUNCTUATION",
  "rLETTER AC AdESCdLGIZ EOLHXkNSUZ AhBERKANAN BEORC BJARKAN ByCaALCdEALCdNcWEORTHhDaAGAZ DAEG D",
  "lOTTED-LbNbPiEaARcHWAZ EH EjNGcTHdFEHU FEOH FE FnRANKS CASKET ACbESCeEHcIScOSqGaARcEBO GYFU G",
  "jRdHAEGL HfGLAZ HiICELANDIC-YRlNGaWAZfORcSAZ IS ISS ImWAZ EOHiJERAN JhKaAUN KcA",
  "fLAUKAZ LAGU LOGR LrONG-BRANCH-AR AEfHAGALL HiMADR MgOSS OfYRoMANNAZ MAN MmNAUDIZ NYD NAUD NrO",
  "aEbNbObPEN-PfS OdTHALAN ETHEL OpPERTHO PEORTH PpQbRAIDO RAD REID RqSHaORT-TWIG-AR AeBJARKAN B",
  "jHAGALL HiMADR MgNAUD NgOSS OfSOL SfTYR TfYRmIGEL LONG-BRANCH-SOL SwOWILO ShTAN",
  "eTHURISAZ THURS THORNtIWAZ TIR TYR TpURUZ UR UjVbWaUNJO WYNN WmXbYaRcZiMULTIPLE PUNCTUATION",
  "uSINGLE PUNCTUATIONsTVIMADUR SYMBOLsNERcING SHIRT WITH SASHvPEE SIGN",
  "iSSIAN ASTROLOGICAL SYMBOL BINOVILEiNOVILEgQUINTILEiSENTAGONiTREDECILEjVIGINTILE"]

end TidyImports.Text.CharName
