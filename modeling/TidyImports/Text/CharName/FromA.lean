/-!
# Names of characters from A to D

The names that begin with these letters, in the order of the alphabet. The small letters before an
ending add up, from nothing for `a` to 25 for `z`, to how many of the last characters of the name
before give way to it.
-/

namespace TidyImports.Text.CharName

def linesFromA : List String := [
  "aABACUSfC CURRENTiCORDIONfUNT OFiKaNOWLEDGEjTIVATE ARABIC FORM SHAPINGtSYMMETRIC SWAPPING",
  "zUTE ACCENTfNGLEkDDRESSED TO THE SUBJECTwHESIVE BANDAGEoI SHAKTIiLAM ALIF LENGTHENER",
  "pCAPITAL LETTER ALIFeBAbHEdCHIdDAALIeHAdEbFAcGAbBEdHAcIbJIIMeKAFcHAcPOdLAAMeMIIMeNHAcUNcYAdO",
  "bPEcQAAFeRAcSHAcINNYIIYHEkTUcUbVAcWAWdYAbHEdZALrONSONANT MODIFIERsDIGIT EIGHTfFIVEdOUReNINE",
  "eONEdSEVENeIXdTHREEeWOdZEROkGEMINATE CONSONANT MODIFIERuION MARKpHAMZA",
  "fINITIAL EXCLAMATION MARKqQUESTION MARKvNASALIZATION MARKqUKTAfSMALL LETTER ALIFeBAbHEdCHI",
  "dDAALIeHAdEbFAcGAbBEdHAcIbJIIMeKAFcHAcPOdLAAMeMIIMeNHAcUNcYAdObPEcQAAFeRAcSHAcINNYIIYHEkTUcU",
  "bVAcWAWdYAbHEdZALqVOWEL LENGTHENERuMETOSeISSION TICKETSpULTeEGEAN CHECK MARK",
  "kDRY MEASURE FIRST SUBUNITzLIQUID MEASURE FIRST SUBUNITzdMEASURE SECOND SUBUNIToTHIRD SUBUNIT",
  "vNUMBER EIGHTa HUNDREDhTHOUSANDjYa THOUSANDpFIFTYa THOUSANDmVEa HUNDREDhTHOUSANDmORTY",
  "a THOUSANDmURa HUNDREDhTHOUSANDnNINEa HUNDREDhTHOUSANDjTYa THOUSANDpONEa HUNDREDhTHOUSAND",
  "mSEVENa HUNDREDhTHOUSANDjTYa THOUSANDpIXa HUNDREDhTHOUSANDjTYa THOUSANDoTENa THOUSANDlHIRTY",
  "a THOUSANDnREEa HUNDREDhTHOUSANDnWENTYa THOUSANDnOa HUNDREDhTHOUSANDtWEIGHT BASE UNIT",
  "jFIRST SUBUNITmOURTH SUBUNIToSECOND SUBUNIToTHIRD SUBUNITtORD SEPARATOR DOTdLINEyRIAL TRAMWAY",
  "nFGHANI SIGNlHOM CONSONANT SIGN MEDIAL LAbIGATING RAlRAyDIGIT EIGHTfFIVEdOUReNINEeONEdSEVENeIX",
  "dTHREEeWOdZEROkLETTER AaLTERNATE BAcGAcTAmBAbHAdCAbHAdDAbDAbHAdHAdGAbHAdHAcJAbHAdKAbHAdLAbLA",
  "dMAcNAbGAcNAcYAdPAbHAdRAcSAcTAbHAcTAbHAlNUMBER TENcWENTYnSIGN KILLERgRULAIfSECTION",
  "gMALL SECTIONrYMBOL VIjVOWEL SIGN AaAbIbMbWcEbIaIcObUaUrIRPLANEa ARRIVINGiDEPARTURE",
  "rKTIESELSKABlLARM CLOCKjCHEMICAL SYMBOL FOR AIRcLEMBICfKALIa-2gUMdMALGAMgNTIMONY ORElQUA REGIA",
  "a-2hVITAEa-2iFORTISjRSENICgSHESeURIPIGMENTlBATH OF MARYeVAPOURSoISMUTH OREkLACK SULFURlORAXa-2",
  "b3gRICKfCADUCEUSgLXcPUT MORTUUMmINNABARhOPPER ANTIMONIATElOREjROCUS OF COPPERa-2iIRONmUCIBLE",
  "a-2b3b4b5kDAY-NIGHTiISSOLVEa-2hTILLhEARTHfFIREeGOLDdUMdHALF DRAMeOUNCEjORSE DUNGiUReIRON ORE",
  "a-2g-COPPER OREpLEAD OREhODESTONEjMARCASITEiERCURY SUBLIMATEa-2b3sONTHfNIGHTdTREfOIL",
  "dPHILOSOPHERS SULFURsOT ASHEShWDERaED BRICKnRECIPITATEkURIFYeTREFACTIONmQUICK LIMEhNTESSENCE",
  "mREALGARa-2hGULUSa OF ANTIMONYa-2kIRONi-2b3b4hTORTfOCK SALTa-2lSAL-AMMONIACjTa OF ANTIMONY",
  "iCOPPER ANTIMONIATEzCEPTER OF JOVEoILVERfOAPdPIRITfTARRED TRIDENTnRATUM SUPER STRATUMa-2",
  "wUBLIMATE OF ANTIMONYiCOPPERgSALT OF ANTIMONYiCOPPERtIONjLFURgTARTARa-2hIN OREeCTUREhRIDENT",
  "gUTTYfURINEfVERDIGRISiINEGARa OF ANTIMONYm-2b3hTRIOLa-2jWATERdXxEF SYMBOLiMBICeRTdIEN MONSTER",
  "lL AROUND-PROFILEoEQUAL TOkMaOST EQUAL OR EQUAL TOlTOa WITH CIRCUMFLEX ACCENT",
  "zlTERNATE ONE-WAY LEFT WAY TRAFFICzbIVE KEY SYMBOLvMALGAMATION OR COPRODUCTxBULANCE",
  "hERICAN FOOTBALLpPERSANDgHORAgNATOLIAN HIEROGLYPH A001b2b3b4b5b6b7b8b9c10aAc1b2b3b4b5b6b7b8b9",
  "c20b1b2b3b4b5b6aAc7b8b9c30b1b2b3b4b5b6b7b8b9aAd40b1aAc2b3b4b5aAc6aAbBc7b8b9c50b1b2b3b4b5b6b7b8",
  "b9c60b1b2b3b4b5b6aAbBbCc7b8b9c70b1b2b3b4b5b6b7b8b9c80b1b2b3b4b5b6b7b8b9c90b1b2b3b4b5b6b7aAc8aA",
  "c9d100aAc1aAc2aAc3b4aAbBbCc5aAbBc6b7aAbBbCc8b9c10aAbBc1b2b3b4b5aAc6b7b8b9c20b1b2b3b4b5aAc6b7b8",
  "b9c30b1b2b3b4b5aAc6b7b8b9c40b1b2b3b4b5b6b7b8b9c50b1b2b3b4b5b6b7b8b9c60b1b2b3b4b5b6b7b8b9c70b1",
  "b2b3b4b5b6b7b8b9c80b1b2b3b4b5b6b7b8b9c90b1b2b3b4b5b6b7b8b9d200b1b2aAbBc3b4b5b6b7aAc8b9aAd10b1",
  "b2b3b4b5aAc6aAc7b8b9c20b1b2b3b4b5b6b7aAc8b9c30b1b2b3b4b5b6b7b8b9c40b1b2b3b4b5b6b7b8b9c50b1b2b3",
  "b4b5b6b7b8b9c60b1b2b3b4b5b6b7aAc8b9c70b1b2b3b4b5b6b7b8b9c80b1b2b3b4b5b6b7b8b9aAd90b1b2b3b4aAc5",
  "b6b7b8b9aAe300b1b2b3b4b5b6b7b8b9aAd10b1b2b3b4b5b6b7b8b9c20b1b2b3b4b5b6b7b8b9aAd30b1b2AbBbCc3b4",
  "b5b6aAbBbCc7b8b9c40b1b2b3b4b5b6b7b8b9c50b1b2b3b4b5b6b7b8b9aAd60b1b2b3b4aAc5b6b7b8aAc9c70b1aAc2",
  "b3b4b5b6b7b8b9c80b1aAc2b3 RA OR RIjAc4b5b6aAc7b8b9c90b1b2b3 EIGHTh4b5b6b7b8b9d400b1b2b3b4b5b6",
  "b7b8b9c10 BEGIN LOGOGRAM MARKuA END LOGOGRAM MARKu1b2b3b4b5b6b7b8b9c20b1b2b3b4b5b6b7b8b9c30b1",
  "b2b3b4b5b6b7b8b9c40b1b2b3b4b5b6b7b8b9c50aAc1b2b3b4b5b6b7aAc8b9c60b1b2b3b4b5b6b7b8b9c70b1b2b3b4",
  "b5b6b7b8b9c80b1b2b3b4b5b6b7b8b9c90b1b2b3b4b5b6b7d501b2b3b4b5b6b7b8b9c10b1b2b3b4b5b6b7b8b9c20b1",
  "b2b3b4b5b6b7b8b9c30uMICAL HEARToCHOReD WITH DOTkGER SYMBOLjLEa WITH S INSIDEiUNDERBARqRY FACE",
  "hSTROM SIGNkUISHED FACEmKHcTaENNA WITH BARSoICLOCKWISE CLOSED CIRCLE ARROWsONTOUR INTEGRAL",
  "qDOWNWARDS AND UPWARDS OPEN CIRCLE ARROWSzpGAPPED CIRCLE ARROWtINTEGRATIONlOPEN CIRCLE ARROW",
  "rTOP SEMICIRCLE ARROWtRIANGLE-HEADED BOTTOM U-SHAPED ARROWvLEFT U-SHAPED ARROW",
  "tOPEN CIRCLE ARROWrRIGHT U-SHAPED ARROWuTOP U-SHAPED ARROWzwPCbL FUNCTIONAL SYMBOL ALPHA",
  "a UNDERBARoBACKSLASH BARnCIRCLE BACKSLASHjDIAERESISjJOTdSTARcILEfUNDERBARoOMMA BAR",
  "jDEL DIAERESISjSTILEfTILDEgTA STILEfUNDERBARnIAMOND UNDERBARpOWN CARET TILDElSHOE STILE",
  "kTACK JOTdUNDERBARoWARDS VANEoEPSILON UNDERBARqGREATER-THAN DIAERESISwI-BEAMfOTAa UNDERBAR",
  "nJOT DIAERESISjUNDERBARmLEFT SHOE STILElWARDS VANEoOMEGAa UNDERBARoQUADa BACKSLASHjCIRCLEfOLON",
  "fDELaTAeIAMONDfVIDEfOWN CARETgWARDS ARROWpEQUALfGREATER-THANmJOTdLEFTWARDS ARROWnSS-THAN",
  "jNOT EQUALjQUESTIONiRIGHTWARDS ARROWqSLASHfUP CARETgWARDS ARROWqOTE QUADeUNDERBARoRHO",
  "cIGHTWARDS VANEpSEMICOLON UNDERBARrLASH BARiQUISH QUADkTAR DIAERESISmILE TILDElTILDE DIAERESIS",
  "pUP CARET TILDElSHOE JOTiTACK DIAERESISjJOTdOVERBARnWARDS VANEmZILDEzOLLONeSTROPHE",
  "iPLICATION PROGRAM COMMANDyROACHES THE LIMITpXIMATELY BUT NOT ACTUALLY EQUAL TO",
  "zEQUAL OR EQUAL TOlTOa OR THE IMAGE OFzmQUARIUShRABIC BASELINE ROUND DOTsCOMMAeURLY DAMMAaTAN",
  "iFATHAaTANiKASRAaTANoDAMMAa ISOLATED FORMnMEDIAL FORMlWITH DOTjTANa ISOLATED FORMuTE SEPARATOR",
  "nECIMAL SEPARATORqISPUTED END OF AYAHtOUBLE RIGHT ARROWHEAD ABOVEa WITH DOTzgD MADDA",
  "nEMPTY CENTRE HIGH STOPjLOW STOPuND OF AYAHeTEXT MARKqFATHAa ISOLATED FORMnMEDIAL FORM",
  "lWITH DOT ABOVEjRINGeTWO DOTSoTANa ISOLATED FORMvIVE POINTED STARqOOTNOTE MARKERoULL STOP",
  "jHALF MADDA OVER MADDAtMZA ABOVEfBELOWlINVERTED DAMMAoKASRAa ISOLATED FORMnMEDIAL FORM",
  "lWITH DOT BELOWpTANa ISOLATED FORMwLARGE CIRCLE BELOWmROUND DOT ABOVEfBELOW",
  "fINSIDE CIRCLE BELOWzjEFT ARROWHEAD ABOVEfBELOWsTTER AEbFRICAN FEHdNOONeQAF",
  "a WITH THREE DOTS ABOVEzhINa FINAL FORMkINITIAL FORMlSOLATED FORMnMEDIAL FORM",
  "lWITH THREE DOTS ABOVEfBELOWfPOINTING DOWNWARDS ABOVEzjWO DOTS ABOVEfVERTICALLY ABOVEziLEF",
  "a FINAL FORMkISOLATED FORMnMAKSURAa FINAL FORMkISOLATED FORMvWASLAa FINAL FORMkISOLATED FORM",
  "sITH ATTACHED BOTTOM RIGHT KASRAa AND DOT ABOVEjLEFT RINGzhFATHAfKASRAfLEFT HAMZAfROUND DOT",
  "oRIGHT HAMZAfROUND DOToOUND DOT ABOVEfBELOWpTOP RIGHT FATHAa AND DOT ABOVEjLEFT RING",
  "znDOT ABOVEjEXTENDED ARABIC-INDIC DIGIT THREE ABOVEkWO ABOVEzmHAMZA ABOVEa FINAL FORM",
  "kISOLATED FORMtBELOWa FINAL FORMkISOLATED FORMzLEFT MIDDLE STROKEsMADDA ABOVEa FINAL FORM",
  "kISOLATED FORMzRIGHT MIDDLE STROKEa AND DOT ABOVEjLEFT RINGziWAVY HAMZA ABOVEfBELOWzbBEEH",
  "a FINAL FORMkINITIAL FORMlSOLATED FORMnMEDIAL FORMoHa FINAL FORMkINITIAL FORMlSOLATED FORM",
  "nMEDIAL FORMlWITH DOT BELOW AND THREE DOTS ABOVEzfHAMZA ABOVElINVERTED SMALL V BELOW",
  "wSMALL MEEM ABOVEkVa BELOWnTHREE DOTS HORIZONTALLY BELOWsPOINTING UPWARDS BELOW",
  "a AND TWO DOTS ABOVEzzbWO DOTS BELOW AND DOT ABOVEzjEHa FINAL FORMkINITIAL FORMlSOLATED FORM",
  "nMEDIAL FORMrDADa FINAL FORMkINITIAL FORMlSOLATED FORMnMEDIAL FORMlWITH DOT BELOWqHAL",
  "a FINAL FORMkISOLATED FORMrLa FINAL FORMkISOLATED FORMnWITH DOT BELOWa AND SMALL TAH",
  "xFOUR DOTS ABOVEpINVERTED SMALL V BELOWnVkRINGeTHREE DOTS ABOVE DOWNWARDSpBELOW",
  "pWO DOTS VERTICALLY BELOW AND SMALL TAHzwDAHALa FINAL FORMkISOLATED FORMrLa FINAL FORM",
  "kISOLATED FORMrOTLESS BEHdFEHdQAFkULa FINAL FORMkISOLATED FORMqYEHa FINAL FORMkINITIAL FORM",
  "lSOLATED FORMnMEDIAL FORMqEa FINAL FORMkINITIAL FORMlSOLATED FORMnMEDIAL FORMnFARSI YEH",
  "a FINAL FORMkINITIAL FORMlSOLATED FORMnMEDIAL FORMlWITH EXTENDED ARABIC-INDIC DIGIT FOUR BELOW",
  "kTHREE ABOVEkWO ABOVEzmINVERTED VkTHREE DOTS ABOVEpWO DOTS ABOVEzdEHa FINAL FORMkINITIAL FORM",
  "lSOLATED FORMnMEDIAL FORMlWITH DOT BELOWa AND THREE DOTS ABOVEzbMOVED BELOWpTHREE DOTS BELOW",
  "fPOINTING UPWARDS BELOWzhWO DOTS BELOWxGAFa FINAL FORMkINITIAL FORMlSOLATED FORMnMEDIAL FORM",
  "lWITH INVERTED STROKEpRINGeTHREE DOTS ABOVEpWO DOTS BELOWwHAINa FINAL FORMkINITIAL FORM",
  "lSOLATED FORMnMEDIAL FORMlWITH DOT BELOWjTHREE DOTS ABOVEzbRAFdUEHa FINAL FORMkINITIAL FORM",
  "lSOLATED FORMnMEDIAL FORMqHAHa FINAL FORMkINITIAL FORMlSOLATED FORMnMEDIAL FORM",
  "lWITH EXTENDED ARABIC-INDIC DIGIT FOUR BELOWznHAMZA ABOVElINVERTED SMALL V BELOW",
  "wSMALL ARABIC LETTER TAH ABOVEeND TWO DOTSmBELOWzeTHREE DOTS ABOVEfPOINTING UPWARDS BELOW",
  "zhWO DOTS ABOVEfVERTICAL ABOVEzfMZAa ISOLATED FORMsEHa DOACHASHMEEa FINAL FORMkINITIAL FORM",
  "lSOLATED FORMnMEDIAL FORMxFINAL FORMkGOALa FINAL FORMkINITIAL FORMlSOLATED FORMnMEDIAL FORM",
  "lWITH HAMZA ABOVEvINITIAL FORMlSOLATED FORMnMEDIAL FORMlWITH INVERTED VkYEH ABOVEa FINAL FORM",
  "kISOLATED FORMzgIGH HAMZAa ALEFeWAWdYEHoJEEMa FINAL FORMkINITIAL FORMlSOLATED FORMnMEDIAL FORM",
  "lWITH THREE DOTS ABOVEfBELOWpWO DOTS ABOVEwHa FINAL FORMkISOLATED FORMrKAFa FINAL FORM",
  "kINITIAL FORMlSOLATED FORMnMEDIAL FORMlWITH DOT ABOVEfBELOWjRINGeTHREE DOTS BELOW",
  "pWO DOTS ABOVEvSHMIRI YEHlEHEHa FINAL FORMkINITIAL FORMlSOLATED FORMnMEDIAL FORM",
  "lWITH DOT ABOVEjSMALL VhTHREE DOTS ABOVEfBELOWfPOINTING UPWARDS BELOWzhWO DOTS ABOVE",
  "fVERTICALLY BELOWzkHAHa FINAL FORMkINITIAL FORMlSOLATED FORMnMEDIAL FORMpIRGHIZ OEa FINAL FORM",
  "kISOLATED FORMqYUa FINAL FORMkISOLATED FORMyLAMa FINAL FORMkINITIAL FORMlSOLATED FORM",
  "nMEDIAL FORMlWITH BARdDOT ABOVEhUBLE BARkSMALL ARABIC LETTER TAH ABOVExVhTHREE DOTS ABOVE",
  "fBELOWyOW ALEFiMARKdEEMa FINAL FORMkINITIAL FORMlSOLATED FORMnMEDIAL FORMlWITH DOT ABOVEfBELOW",
  "jTHREE DOTS ABOVEzbNGa FINAL FORMkINITIAL FORMlSOLATED FORMnMEDIAL FORMmOEHa FINAL FORM",
  "kINITIAL FORMlSOLATED FORMnMEDIAL FORMqOONa FINAL FORMkGHUNNAa FINAL FORMkISOLATED FORM",
  "uINITIAL FORMlSOLATED FORMnMEDIAL FORMlWITH DOT BELOWjINVERTED SMALL VqRINGeSMALL TAHdV",
  "hTHREE DOTS ABOVEpWO DOTS BELOWxYEHa FINAL FORMkINITIAL FORMlSOLATED FORMnMEDIAL FORMqOE",
  "a FINAL FORMkISOLATED FORMqPEHa FINAL FORMkINITIAL FORMlSOLATED FORMnMEDIAL FORM",
  "lWITH SMALL MEEM ABOVEkVnEHa FINAL FORMkINITIAL FORMlSOLATED FORMnMEDIAL FORMrQAFa FINAL FORM",
  "kINITIAL FORMlSOLATED FORMnMEDIAL FORMlWITH DOT ABOVEfBELOWa AND NO DOTS ABOVE",
  "zcTHREE DOTS ABOVEzREHa FINAL FORMkISOLATED FORMnWITH DOT BELOWa AND DOT ABOVExFOUR DOTS ABOVE",
  "pHAMZA ABOVElINVERTED VkLOOPeRINGeSMALL ARABIC LETTER TAH AND TWO DOTSzfNOON ABOVEkVa BELOW",
  "mTROKEgTWO DOTS ABOVEfVERTICALLY ABOVEziNOONa FINAL FORMkINITIAL FORMlSOLATED FORMnMEDIAL FORM",
  "qOHINGYA YEHlREHa FINAL FORMkISOLATED FORMsSADa FINAL FORMkINITIAL FORMlSOLATED FORM",
  "nMEDIAL FORMlWITH THREE DOTS ABOVEfBELOWpWO DOTS BELOWwEENa FINAL FORMkINITIAL FORM",
  "lSOLATED FORMnMEDIAL FORMlWITH DOT BELOW AND DOT ABOVExEXTENDED ARABIC-INDIC DIGIT FOUR ABOVE",
  "znFOUR DOTS ABOVEpINVERTED VkSMALL ARABIC LETTER TAH AND TWO DOTSzlTHREE DOTS BELOW",
  "a AND THREE DOTS ABOVEzlWO DOTS VERTICALLY ABOVEzjHEENa FINAL FORMkINITIAL FORMlSOLATED FORM",
  "nMEDIAL FORMlWITH DOT BELOWtTRAIGHT WAWlUPERSCRIPT ALEFpWASH KAFjTAHa FINAL FORMkINITIAL FORM",
  "lSOLATED FORMnMEDIAL FORMlWITH DOT BELOWjTHREE DOTS ABOVEfBELOWpWO DOTS ABOVEwCHEHa FINAL FORM",
  "kINITIAL FORMlSOLATED FORMnMEDIAL FORMlWITH DOT ABOVEjSMALL VnEHa FINAL FORMkINITIAL FORM",
  "lSOLATED FORMnMEDIAL FORMsEHa FINAL FORMkINITIAL FORMlSOLATED FORMnMARBUTAa FINAL FORMkGOAL",
  "eISOLATED FORMuEDIAL FORMlWITH RINGeSMALL TEH ABOVEjVhTHREE DOTS ABOVE DOWNWARDSzhEH",
  "a FINAL FORMkINITIAL FORMlSOLATED FORMnMEDIAL FORMqHALa FINAL FORMkISOLATED FORMqEH",
  "a FINAL FORMkINITIAL FORMlSOLATED FORMnMEDIAL FORMoIN YEHhTEHa FINAL FORMkINITIAL FORM",
  "lSOLATED FORMnMEDIAL FORMlWITH SMALL VnEHa FINAL FORMkINITIAL FORMlSOLATED FORMnMEDIAL FORMsU",
  "a FINAL FORMkISOLATED FORMnWITH HAMZA ABOVEa ISOLATED FORM",
  "zgIGHUR KAZAKH KIRGHIZ ALEF MAKSURA INITIAL FORMmMEDIAL FORMzvVEa FINAL FORMkISOLATED FORMoH",
  "a FINAL FORMkINITIAL FORMlSOLATED FORMnMEDIAL FORMpWAWa FINAL FORMkISOLATED FORM",
  "nWITH DOT ABOVEfWITHINkEXTENDED ARABIC-INDIC DIGIT THREE ABOVEkWO ABOVEzmHAMZA ABOVE",
  "a FINAL FORMkISOLATED FORMzRINGeTWO DOTS ABOVExYEHa BARREEa FINAL FORMkISOLATED FORM",
  "nWITH EXTENDED ARABIC-INDIC DIGIT THREE ABOVEkWO ABOVEzmHAMZA ABOVEa FINAL FORMkISOLATED FORM",
  "zmFINAL FORMkINITIAL FORMlSOLATED FORMnMEDIAL FORMlWITH HAMZA ABOVEa FINAL FORMkINITIAL FORM",
  "lSOLATED FORMnMEDIAL FORMxSMALL VhTAILdHREE DOTS BELOWpWO DOTS BELOW AND DOT ABOVEjHAMZA ABOVE",
  "lSMALL NOON ABOVEzsUa FINAL FORMkISOLATED FORMqZAHa FINAL FORMkINITIAL FORMlSOLATED FORM",
  "nMEDIAL FORMnINa FINAL FORMkISOLATED FORMnWITH INVERTED V ABOVE",
  "zhIGATURE AIN WITH ALEF MAKSURA FINAL FORMkISOLATED FORMzbJEEM INITIAL FORMlSOLATED FORM",
  "nWITH MEEM FINAL FORMkINITIAL FORMzcMEEM INITIAL FORMlSOLATED FORM",
  "nWITH ALEF MAKSURA FINAL FORMxMEEM FINAL FORMkINITIAL FORMrYEH FINAL FORMyYEH FINAL FORM",
  "kISOLATED FORMzKBAR ISOLATED FORMsLAYHAA AS-SALAAMmE ISOLATED FORMpI AS-SALAAMbTU WAS-SALAAM",
  "wM AS-SALAAMkAA AS-SALAAMrEF MAKSURA WITH SUPERSCRIPT ALEF FINAL FORMkISOLATED FORM",
  "zsWITH FATHATAN FINAL FORMkISOLATED FORMzfLAH ISOLATED FORMsZZA WA JALL",
  "mBEH WITH ALEF MAKSURA FINAL FORMkISOLATED FORMzbHAH INITIAL FORMlSOLATED FORM",
  "nWITH YEH FINAL FORMwEH INITIAL FORMmMEDIAL FORMpJEEM INITIAL FORMlSOLATED FORM",
  "sKHAH INITIAL FORMlSOLATED FORMnWITH YEH FINAL FORMyMEEM FINAL FORMkINITIAL FORMlSOLATED FORM",
  "nMEDIAL FORMqNOON FINAL FORMpREH FINAL FORMoYEH FINAL FORMkISOLATED FORMrZAIN FINAL FORM",
  "xISMILLAH AR-RAHMAN AR-RAHEEMzeDAD WITH ALEF MAKSURA FINAL FORMkISOLATED FORM",
  "zbHAH INITIAL FORMlSOLATED FORMnWITH ALEF MAKSURA FINAL FORMxYEH FINAL FORMxJEEM INITIAL FORM",
  "lSOLATED FORMsKHAH INITIAL FORMlSOLATED FORMnWITH MEEM FINAL FORMkINITIAL FORM",
  "zcMEEM INITIAL FORMlSOLATED FORMsREH FINAL FORMkISOLATED FORMrYEH FINAL FORMkISOLATED FORM",
  "zbFEH WITH ALEF MAKSURA FINAL FORMkISOLATED FORMzbHAH INITIAL FORMlSOLATED FORM",
  "rJEEM INITIAL FORMlSOLATED FORMsKHAH INITIAL FORMlSOLATED FORMnWITH MEEM FINAL FORM",
  "kINITIAL FORMzcMEEM INITIAL FORMlSOLATED FORMnWITH YEH FINAL FORMyYEH FINAL FORMkISOLATED FORM",
  "zbGHAIN WITH ALEF MAKSURA FINAL FORMkISOLATED FORMzbJEEM INITIAL FORMlSOLATED FORM",
  "sMEEM INITIAL FORMlSOLATED FORMnWITH ALEF MAKSURA FINAL FORMxMEEM FINAL FORMpYEH FINAL FORM",
  "yYEH FINAL FORMkISOLATED FORMzdHAH WITH ALEF MAKSURA FINAL FORMkISOLATED FORM",
  "zbJEEM INITIAL FORMlSOLATED FORMnWITH YEH FINAL FORMyMEEM INITIAL FORMlSOLATED FORM",
  "nWITH ALEF MAKSURA FINAL FORMxYEH FINAL FORMyYEH FINAL FORMkISOLATED FORM",
  "zEH WITH ALEF MAKSURA ISOLATED FORMzbJEEM INITIAL FORMlSOLATED FORMsMEEM INITIAL FORM",
  "lSOLATED FORMnWITH JEEM INITIAL FORMrMEEM INITIAL FORMzcSUPERSCRIPT ALEF INITIAL FORM",
  "zeYEH ISOLATED FORMzbJALLAJALALOUHOUoEEM WITH ALEF MAKSURA FINAL FORMkISOLATED FORM",
  "zbHAH INITIAL FORMlSOLATED FORMnWITH ALEF MAKSURA FINAL FORMxYEH FINAL FORMxMEEM INITIAL FORM",
  "lSOLATED FORMnWITH ALEF MAKSURA FINAL FORMxHAH FINAL FORMkINITIAL FORMqYEH FINAL FORM",
  "yYEH FINAL FORMkISOLATED FORMzcKAF WITH ALEF FINAL FORMkISOLATED FORMnMAKSURA FINAL FORM",
  "kISOLATED FORMzbHAH INITIAL FORMlSOLATED FORMrJEEM INITIAL FORMlSOLATED FORMsKHAH INITIAL FORM",
  "lSOLATED FORMsLAM FINAL FORMkINITIAL FORMlSOLATED FORMnMEDIAL FORMpMEEM FINAL FORM",
  "kINITIAL FORMlSOLATED FORMnMEDIAL FORMlWITH MEEM FINAL FORMkINITIAL FORMrYEH FINAL FORM",
  "yYEH FINAL FORMkISOLATED FORMzHAH WITH ALEF MAKSURA FINAL FORMkISOLATED FORM",
  "zbHAH ISOLATED FORMrJEEM INITIAL FORMlSOLATED FORMsMEEM INITIAL FORMlSOLATED FORM",
  "sYEH FINAL FORMkISOLATED FORMzcLAM WITH ALEF FINAL FORMkISOLATED FORMnMAKSURA FINAL FORM",
  "kISOLATED FORMvWITH HAMZA ABOVE FINAL FORMkISOLATED FORMtBELOW FINAL FORMkISOLATED FORM",
  "zMADDA ABOVE FINAL FORMkISOLATED FORMzkHAH INITIAL FORMlSOLATED FORM",
  "nWITH ALEF MAKSURA FINAL FORMxMEEM FINAL FORMkINITIAL FORMrYEH FINAL FORMwEH INITIAL FORM",
  "qJEEM INITIAL FORMlSOLATED FORMnWITH JEEM FINAL FORMkINITIAL FORMrMEEM FINAL FORMkINITIAL FORM",
  "rYEH FINAL FORMyKHAH INITIAL FORMlSOLATED FORMnWITH MEEM FINAL FORMkINITIAL FORM",
  "zcMEEM FINAL FORMkINITIAL FORMlSOLATED FORMnMEDIAL FORMlWITH HAH FINAL FORMkINITIAL FORM",
  "qYEH FINAL FORMyYEH FINAL FORMkISOLATED FORMzbMEEM WITH ALEF FINAL FORMkMAKSURA ISOLATED FORM",
  "zbHAH INITIAL FORMlSOLATED FORMnWITH JEEM INITIAL FORMrMEEM INITIAL FORMrYEH FINAL FORM",
  "xJEEM INITIAL FORMlSOLATED FORMnWITH HAH INITIAL FORMqKHAH INITIAL FORMrMEEM INITIAL FORM",
  "rYEH FINAL FORMyKHAH INITIAL FORMlSOLATED FORMnWITH JEEM INITIAL FORMrMEEM INITIAL FORM",
  "rYEH FINAL FORMyMEEM FINAL FORMkINITIAL FORMlSOLATED FORMnWITH YEH FINAL FORM",
  "yYEH ISOLATED FORMzbOHAMMAD ISOLATED FORMwNOON WITH ALEF MAKSURA FINAL FORMkISOLATED FORM",
  "zbHAH INITIAL FORMlSOLATED FORMnWITH ALEF MAKSURA FINAL FORMxMEEM INITIAL FORMrYEH FINAL FORM",
  "wEH INITIAL FORMmMEDIAL FORMpJEEM INITIAL FORMlSOLATED FORMnWITH ALEF MAKSURA FINAL FORM",
  "xHAH FINAL FORMkINITIAL FORMqMEEM FINAL FORMkINITIAL FORMrYEH FINAL FORMyKHAH INITIAL FORM",
  "lSOLATED FORMsMEEM FINAL FORMkINITIAL FORMlSOLATED FORMnMEDIAL FORM",
  "lWITH ALEF MAKSURA FINAL FORMxYEH FINAL FORMyNOON FINAL FORMpREH FINAL FORMoYEH FINAL FORM",
  "kISOLATED FORMrZAIN FINAL FORMzQAF WITH ALEF MAKSURA FINAL FORMkISOLATED FORM",
  "zbHAH INITIAL FORMlSOLATED FORMrMEEM INITIAL FORMlSOLATED FORMnWITH HAH FINAL FORM",
  "kINITIAL FORMqMEEM FINAL FORMpYEH FINAL FORMyYEH FINAL FORMkISOLATED FORM",
  "yLA USED AS KORANIC STOP SIGN ISOLATED FORMzsUDDISA SIRRAHoRADI ALLAAHU ANHaAAcUMaAAdNNA",
  "sHIMAHU ALLAAHhM ALLAAHoSOUL ISOLATED FORMtEH WITH SUPERSCRIPT ALEF ISOLATED FORM",
  "zoSAD WITH ALEF MAKSURA FINAL FORMkISOLATED FORMzbHAH INITIAL FORMlSOLATED FORM",
  "nWITH HAH FINAL FORMkINITIAL FORMqYEH FINAL FORMxKHAH INITIAL FORMrMEEM INITIAL FORM",
  "lSOLATED FORMnWITH MEEM FINAL FORMkINITIAL FORMzcREH FINAL FORMkISOLATED FORMrYEH FINAL FORM",
  "kISOLATED FORMyLAAMUHU ALAYNAAnM ISOLATED FORMqLA ISOLATED FORM",
  "nUSED AS KORANIC STOP SIGN ISOLATED FORMzpLLAAHU ALAYHI WA-AALIHtHOU ALAYHE WASALLAM",
  "sU ALAYHI WAAALIHEE WA-SALLAMzlEEN WITH ALEF MAKSURA FINAL FORMkISOLATED FORM",
  "zbHAH INITIAL FORMlSOLATED FORMnMEDIAL FORMlWITH JEEM INITIAL FORMzEH INITIAL FORMmMEDIAL FORM",
  "pJEEM INITIAL FORMlSOLATED FORMnMEDIAL FORMlWITH ALEF MAKSURA FINAL FORMxHAH INITIAL FORM",
  "zbKHAH INITIAL FORMlSOLATED FORMnMEDIAL FORMlWITH ALEF MAKSURA FINAL FORMxYEH FINAL FORM",
  "yMEEM INITIAL FORMlSOLATED FORMnMEDIAL FORMlWITH HAH FINAL FORMkINITIAL FORMqJEEM INITIAL FORM",
  "rMEEM FINAL FORMkINITIAL FORMzcREH FINAL FORMkISOLATED FORMrYEH FINAL FORMkISOLATED FORM",
  "zbHADDA WITH DAMMA ISOLATED FORMnMEDIAL FORMmTAN ISOLATED FORMwFATHA ISOLATED FORMnMEDIAL FORM",
  "rKASRA ISOLATED FORMnMEDIAL FORMmTAN ISOLATED FORMwSUPERSCRIPT ALEF ISOLATED FORM",
  "zpEEN WITH ALEF MAKSURA FINAL FORMkISOLATED FORMzbHAH FINAL FORMkINITIAL FORMlSOLATED FORM",
  "nMEDIAL FORMlWITH MEEM FINAL FORMkINITIAL FORMrYEH FINAL FORMwEH INITIAL FORMmMEDIAL FORM",
  "pJEEM FINAL FORMkINITIAL FORMlSOLATED FORMnMEDIAL FORMlWITH YEH FINAL FORMyKHAH FINAL FORM",
  "kINITIAL FORMlSOLATED FORMnMEDIAL FORMqMEEM FINAL FORMkINITIAL FORMlSOLATED FORMnMEDIAL FORM",
  "lWITH KHAH FINAL FORMkINITIAL FORMrMEEM FINAL FORMkINITIAL FORMzcREH FINAL FORMkISOLATED FORM",
  "rYEH FINAL FORMkISOLATED FORMzcUBHAANAHU WA TAAALAAvTABAARAKA WA-TAAALAA",
  "sH WITH ALEF MAKSURA FINAL FORMkISOLATED FORMzbHAH INITIAL FORMlSOLATED FORMrMEEM INITIAL FORM",
  "lSOLATED FORMnMEDIAL FORMlWITH HAH FINAL FORMkINITIAL FORMqMEEM INITIAL FORMrYEH FINAL FORM",
  "yYEH FINAL FORMkISOLATED FORMzEH WITH ALEF MAKSURA FINAL FORMkISOLATED FORMzbHAH INITIAL FORM",
  "lSOLATED FORMnWITH JEEM FINAL FORMkINITIAL FORMrMEEM INITIAL FORMzEH INITIAL FORMmMEDIAL FORM",
  "pJEEM INITIAL FORMlSOLATED FORMnWITH ALEF MAKSURA FINAL FORMxMEEM INITIAL FORMrYEH FINAL FORM",
  "yKHAH INITIAL FORMlSOLATED FORMnWITH ALEF MAKSURA FINAL FORMxMEEM INITIAL FORMrYEH FINAL FORM",
  "yMEEM FINAL FORMkINITIAL FORMlSOLATED FORMnMEDIAL FORMlWITH ALEF MAKSURA FINAL FORM",
  "xHAH INITIAL FORMqJEEM INITIAL FORMrKHAH INITIAL FORMrYEH FINAL FORMyNOON FINAL FORM",
  "pREH FINAL FORMoYEH FINAL FORMkISOLATED FORMrZAIN FINAL FORM",
  "xHAL WITH SUPERSCRIPT ALEF ISOLATED FORMznEH WITH ALEF MAKSURA FINAL FORMkISOLATED FORM",
  "zbHEH MEDIAL FORMpJEEM ISOLATED FORMsMEEM FINAL FORMkINITIAL FORMlSOLATED FORMnMEDIAL FORM",
  "qNOON FINAL FORMpREH FINAL FORMoYEH FINAL FORMkISOLATED FORMrZAIN FINAL FORM",
  "zUIGHUR KIRGHIZ YEH WITH HAMZA ABOVE WITH ALEF MAKSURA FINAL FORMkINITIAL FORMlSOLATED FORM",
  "zzrWASALLAM ISOLATED FORMwYEH WITH ALEF MAKSURA FINAL FORMkISOLATED FORMzbHAH INITIAL FORM",
  "lSOLATED FORMnWITH YEH FINAL FORMvMZA ABOVE WITH AE FINAL FORMkISOLATED FORMpLEF FINAL FORM",
  "kISOLATED FORMnMAKSURA FINAL FORMkISOLATED FORMzbE FINAL FORMkINITIAL FORMlSOLATED FORM",
  "pHAH INITIAL FORMlSOLATED FORMqEH INITIAL FORMmMEDIAL FORMpJEEM INITIAL FORMlSOLATED FORM",
  "sKHAH INITIAL FORMrMEEM FINAL FORMkINITIAL FORMlSOLATED FORMnMEDIAL FORMqNOON FINAL FORM",
  "pOE FINAL FORMkISOLATED FORMqREH FINAL FORMoU FINAL FORMkISOLATED FORMpWAW FINAL FORM",
  "kISOLATED FORMrYEH FINAL FORMkISOLATED FORMqU FINAL FORMkISOLATED FORMqZAIN FINAL FORM",
  "zgEH INITIAL FORMmMEDIAL FORMpJEEM INITIAL FORMlSOLATED FORMnWITH YEH FINAL FORM",
  "yKHAH INITIAL FORMlSOLATED FORMsMEEM FINAL FORMkINITIAL FORMlSOLATED FORMnMEDIAL FORM",
  "lWITH MEEM FINAL FORMkINITIAL FORMrYEH FINAL FORMyNOON FINAL FORMpREH FINAL FORM",
  "oYEH FINAL FORMkISOLATED FORMrZAIN FINAL FORMyZAH WITH MEEM INITIAL FORMlSOLATED FORM",
  "nMEDIAL FORMzjMADDA WAAJIBhH ABOVEkRK NOON GHUNNAlSIDEWAYS NOON GHUNNAxTHEMATICAL AINcLEFeBEH",
  "dDADbLcOTLESS BEHdFEHdNOONeQAFjUBLE-STRUCK AINdBEHdDADbLdFEHdGHAINfHAHdJEEMeKHAHeLAMdMEEMeNOON",
  "eQAFdREHdSADcEENdHEENfTAHcEHcHALcEHeWAWdYEHdZAHbINsFEHdGHAINfHAHdINITIAL AINdBEHdDADdFEHdGHAIN",
  "fHAHcEHdJEEMeKAFcHAHeLAMdMEEMeNOONeQAFdSADcEENdHEENfTEHcHEHeYEHlJEEMeKAFcHAHeLAMcOOPED AINcLEF",
  "eBEHdDADbLdFEHdGHAINfHAHcEHdJEEMeKHAHeLAMdMEEMeNOONeQAFdREHdSADcEENdHEENfTAHcEHcHALcEHeWAWdYEH",
  "dZAHbINlMEEMeNOONeOPERATOR HAH WITH DALmMEEM WITH HAH WITH TATWEELzkQAFdREHdSADcEENdHEEN",
  "eTRETCHED AINdBEHdDADcOTLESS BEHdFEHlFEHdGHAINfHAHcEHdJEEMeKAFcHAHeMEEMeNOONeQAFdSADcEENdHEEN",
  "fTAHcEHcHEHeYEHdZAHnTAHbILED AINdDADcOTLESS NOONeQAFlGHAINfHAHdJEEMeKHAHeLAMdNOONeQAFdSADcEEN",
  "dHEENfYEHjEHcHALcEHeWAWdYEHdZAHbINrNUMBER MARK ABOVEkSIGNlOPEN DAMMATANiFATHATANiKASRATAN",
  "nPERCENT SIGNlIASTRE MARK ABOVErLACE OF SAJDAHoOETIC VERSE SIGNpUND MARK ABOVEqQUESTION MARK",
  "nRAISED ROUND DOToYcEVERSED DAMMAnIGHT ARROWHEAD ABOVEa WITH DOToBELOW",
  "uOUNDED HIGH STOP WITH FILLED CENTREzlSEMICOLONiHADDAa ISOLATED FORMnMEDIAL FORM",
  "rIGN ALAYHE ASSALLAMpMISRAfRADI ALLAHOU ANHUpHMATULLAH ALAYHEsSAFHAdLLALLAHOU ALAYHE WASSALLAM",
  "zbMVATeNAHeINDHI AMPERSANDjPOSTPOSITION MENxTAKHALLUSnMALL DAMMAfFARSI YEHhTHAfHIGH AIN",
  "dDOTLESS HEAD OF KHAHuFARSI YEHiOOTNOTE MARKERpJEEMeLAM ALEFhIGATURE ALEF WITH LAM WITH YEH",
  "wQAF WITH LAM WITH ALEF MAKSURAzfSAD WITH LAM WITH ALEF MAKSURAzoMADDAeEEM INITIAL FORM",
  "lSOLATED FORMsNOONa WITH KASRApQAFdROUNDED ZEROmSADcEENdIGN SAFHAkTAHcHREE DOTS",
  "kUPRIGHT RECTANGULAR ZEROyWAWcORD AL-JUZfN-NISFgR-RUBfS-SAJDAhTH-THALATHAmQIFdSAHbKTAfWAQFA",
  "kYEHa BARREE WITH TWO DOTS BELOWzfZAHbINjKASRAfLOW MEEMeNOON WITH KASRApSEENeWAWcORD IMAALA",
  "fSHMAAMhTASHEELqWAWdYEHiTART OF RUB EL HIZBtUBSCRIPT ALEFmKUNa BELOWfISOLATED FORMnMEDIAL FORM",
  "pPERSCRIPT ALEF MOKHASSASzYMBOL DOT ABOVEfBELOWhUBLE VERTICAL BAR BELOWzFOUR DOTS ABOVEfBELOW",
  "pRINGeSMALL TAH ABOVEfBELOWpTHREE DOTS ABOVEfBELOWfPOINTING DOWNWARDS ABOVEfBELOW",
  "zjWO DOTS ABOVEfBELOWfVERTICALLY ABOVEfBELOWzWASLA ABOVEsTAIL FRAGMENTlTWEEL",
  "a WITH FATHATAN ABOVEoOVERSTRUCK HAMZAfWAWoTWO DOTS BELOWzbHOUSANDS SEPARATORsONE LOOP ABOVE",
  "fBELOWkONE DOT ABOVEfBELOWnTWO DOTS ABOVEfBELOWsRIPLE DOT PUNCTUATION MARKzbURNED DAMMA BELOW",
  "sVERTICAL TAILmOWEL SIGN DOT BELOWjINVERTED SMALL V ABOVEwSMALL V ABOVEyWAVY HAMZA BELOW",
  "qZWARAKAYj-INDIC CUBE ROOTjDIGIT EIGHTfFIVEdOUReNINEeONEdSEVENeIXdTHREEeWOdZEROkFOURTH ROOT",
  "lPER MILLE SIGNkTEN THOUSAND SIGNzhCbIESdMENIAN ABBREVIATION MARKqPOSTROPHEkCAPITAL LETTER AYB",
  "dBENdCAbHAbEHdOcDAcECHcHbTcFEHdGHADdIMdHOcINIdJAbHEHeKEHbNdLIWNeMENdNOWdOHcPEHcIWReRAbEHdSEH",
  "cHAdTIWNdOcVEWcOcXEHdYIaWNeZAbHErOMMAfDRAM SIGNjEMPHASIS MARKmXCLAMATION MARKqFULL STOPjHYPHEN",
  "gMODIFIER LETTER LEFT HALF RINGzfQUESTION MARKnSMALL LETTER AYBdBENdCAbHAbEHdOcDAcECHcHbTcFEH",
  "dGHADdIMdHOcINIdJAbHEHeKEHbNdLIWNeMENdNOWdOHcPEHcIWReRAbEHdSEHcHAdTIWNdObURNED AYBkVEWcOcXEH",
  "dYIa WITH STROKEmWNeZAbHEjIGATURE ECH YIWNiMEN ECHdINIdNOWdXEHhVEW NOW",
  "zeROW POINTING DOWNWARDS THEN CURVING LEFTWARDSjRIGHTWARDSziRIGHTWARDS THEN CURVING DOWNWARDS",
  "jSOUTH WESTkUPWARDSzgUPWARDS THEN NORTH WESTziHEAD-SHAPED POINTERwTICULATED LORRYnST PALETTE",
  "nSCENDING NODElIA SYMBOLkSERTIONhTERISKa OPERATORkMfONISHED FACEmRAEA",
  "dONOMICAL SYMBOL FOR URANUSzdYMPTOTICALLY EQUAL TOwTHLETIC SHOElOM SYMBOLkUBERGINEhSTRAL SIGN",
  "kTO RICKSHAWjMATED TELLER MACHINEtOBILEjVESTAN ABBREVIATION MARKrLETTER AaAaNbOcEaEcNbOcBEbHE",
  "dCEcDEbHEdEaEcFEcGEbGEcHEdHEbMEdIaIcJEcKEcLEcMEcNEbGEbVEcYEdNEcYEdOaOcPEcREcSEbHEbYEdSHEeTEbHE",
  "cTEdUaUcVEcXEbVEcYEdYEbYEdZEbHEqOCADOgXEdBABYa ANGELfBOTTLEgCHICKfSYMBOLjCK OF ENVELOPE",
  "lWITH LEFTWARDS ARROW ABOVEzc-TILTED SHADOWED WHITE RIGHTWARDS ARROW",
  "zoSLANTED SOUTH ARROW WITH HOOKED TAILjRIZONTAL TAILzoPACEgONcTRIAN CAMELmDGER",
  "dMINTON RACQUET AND SHUTTLECOCKzgGELcGAGE CLAIMkUETTE BREADmLINESE ADEG ADEGjCARIK PAMUNGKAH",
  "hRERENhSIKIkDIGIT EIGHTfFIVEdOUReNINEeONEdSEVENeIXdTHREEeWOdZEROkLETTER AIKARAfKARAa TEDUNG",
  "lRCHAIC JNYAlSYURA SASAKmBAa KEMBANGkCAa LACAhDAa MADUdURDA ALPAPRANAjMAHAPRANAsEF SASAKhKARA",
  "fGAa GORAhHAcIKARAa TEDUNGmJAa JERAhKAa MAHAPRANAkF SASAKiHOT SASAKkLAa LENGAa TEDUNGpMAcNA",
  "a RAMBATiGAcYAdOKARAa TEDUNGmPAa KAPALiRAa REPAa TEDUNGoSAa SAGAcPAhTAa LATIKfMURDA MAHAPRANA",
  "pTAWAgZIR SASAKkUKARAa TEDUNGmVE SASAKiWAcYAcZAL SASAKqMUSICAL SYMBOL COMBINING BENDEfENDEP",
  "fGONGeJEGOGANhKEMPLIa WITH JEGOGANpULa WITH JEGOGANtTEGEHpDAENGdINGdNGa GEDEeSURANGkENGcUNG",
  "eINGdONGdUNGeLEFT-HAND CLOSED PLAKcUKlOPEN PANGdINGdUNGtRIGHT-HAND CLOSED TAKcUKkOPEN DAGcUG",
  "zjPAMADAa LANTANGlENENGgNTIa LANTANGnSIGN BISAHfCECEKfREREKANhSURANGgULU CANDRAgRICEM",
  "oVOWEL SIGN LA LENGAa TEDUNGpPEPETa TEDUNGmRA REPAa TEDUNGoSUKUa ILUTjTALINGa REPAa TEDUNG",
  "lTEDUNGmEDUNGgULUa SARItWINDUlL OF YARNiET SHOESiOONa-SPOKED ASTERISKsT BOLD SCRIPT XlX",
  "a WITH BALLOTfOLD CHECKfSCRIPT XnCHECKfLIGHT XhSCRIPT XiXkSCRIPT XiXgMUM COLON",
  "dMBINING MARK KOQNDONhTUKWENTISvMAfFULL STOPjLETTER AbEEcFAAMAEfEEcOMcUcIbKAbENbTbUXdIbOaGHOM",
  "eVUUePAcUbYEEeLAbEEEEeIbOQcUcMaAbBAAcENdEEEEdNcIbObUcNAbDAAdGAbGAcKWAENgIbJAEMdEEcUAEeSHAdTEE",
  "cUUdUaAEdYIdObPAbEEbUXdHASE-A FIRIeGBIEE FONiHEUAEGHEUAEgRAEjKAFAcQcETbUKEUTNDAjPOQdUOQeLAPAQ",
  "eET KUTgOMMAEfUaAEPfMAEKEUPeMaBGBIEEgKPENeVEUXfNYIdSIdNSUAEfP PIEETiBANYIdQdEUNJOMNDEUQlGBASA",
  "fON NGGEUAETkOMEUTdPUQgVEUAENGAMkNAA MFONgQcDA LEERAEWAjANGGEUAETlENcGANGUeGENdKUE MFONfNZEUM",
  "jIKAdJAMdKAARAEfINDIfSHAbIEEfTAPa MFAAeNTAAhOQPENgYETcIaT MONGKEUAEQoZA MFONgUN MEUT",
  "jPA LEERAEWAjAMbRAEeMSHAEfSHAEfETcON MFON PIPAEMBAcGBIEEqPA NJI PIPAEMBAcGBIEEvUPdROMdSEUNYAM",
  "gHINDA PA NJIkRAEeOQ NSHUT YUMmUENSHUEThMdISAdONJAMeQbTcUUdTEUAENdTEUWENiITA MFONiU MAEMBAhAEP",
  "fU YUQ NAEiNKNOWNhVEEfB FEEbUXeGHEUGHENbUAEMlKAMcEUAEMdPUQdYEUXgIEEMdQdLAANAEeM NSHUT NYAMnET",
  "cOM NTEUMjMAa NJEUAENAgUQAhBA MAELEEhARAEfEURIeIT MBAAKETkUOQeEUQbT NGGEETkFIYAQeON TEUAEQ",
  "kONTIEENiNDU NJAAhGGAAMdEU MBUgUOQa LARGEkKINDI MVOPkOMdSENcHUETfTIEE SHEUOQlYAEMAEfI NTEUM",
  "jPARUMeEESHIfITcUNGAAMhSAKEUAEgET TUfHET NJAQgUAEQTUiIEEdUEdTAAMdU MAEMGBIEEjNSIEEiVEUMeWUAET",
  "fYAFU LEERAEWAmEURAEiC BUNGeFUEdGBAYIeHAPbRAEgKAAcEN FATIGUEhLAWfTbUKAQdMbSEUXdHEUAEPjPARAQ",
  "fUOP NKAARAEkTdLAMbPcIQcUcMA KEUAERIhNSIEEgEMBAdSIeBAA CABBAGE-TREEmPICKETiNYIeEEKEETfRAEdUMbX",
  "dIaRIEENfTcUAEMdEdGBASAQgIEEdUAEeNANSANAQgQcDAMbPcEUAEREEfTdIDAdOMBUfGAQcGENcUaAEN NYAMiEETdM",
  "bONeKAQcUE MAEMBAkOMdJAEMcMcEEEEdUXdUEQeSAbEUAENfHAQdOMcUNbOT NGOMjTAAcENbUNGBAgU MBIT",
  "hYIR MKPARAQ MEUNqZAbEUMfPENcINbRIEENhRUcSETFONeUXdHIQcUEQeUAETfTAASHAEgETbUTEUXgITA YUEfUAEP",
  "hVEUAEPENfXeWANGKUOQhUPdYAAcEUQdU MUOMAEhMbWOQhD FAAcEUFEUAETjGHAAcEUAEgKETbUAETMEUNhM",
  "bOT MBUAEiPdUaNbOMcQcWAETeYEEeLEEEEdTbUAEPdMdIEEdOQcUMdMaAENJETfLEERIgBAAa SEVENiUOdEEEEdUNbT",
  "dFEUAEcTdIEEdOaNdGBEUNdIEEdOFUMgONIdUbVOPeNDAMcEEbUXdONdGGAAMaAEePcEUXdUOMdWAENfKAPcEUAEQdRI",
  "eIEEdUNcYEEfIbJAPcEUAEMdTdIaEEdUEQeSHEEcUTdIEEPbTeUMdTEEbUMdUUdUbYAMcETcIbUEePAPcEEbUTAEfIPcUQ",
  "bUTeRAEMdEN MUCHeOLDgIIdSAPbQcEUAEQfHEEbUAEcXdIIcOQcUcOTcUAEcEbUdTAEcEEEEdUAENdNbTdIbOQcUaOT",
  "eWAPcUAENfYAEMMAEgENcUOMbPcWOQhE AbFAaQcEEcOMcU CALLeIbREMEDYhEaTeGBETbUXeHAAMAEfETbUAEcNbXdOM",
  "eIbKETbUAEcXdIbObPEUXeUETcOPcTdLAAMcPbQcEUAEMfOMbONbTcQcUcMAaEaMcPbQcBEEbUMeENcFEUQeGBAbENeI",
  "aEEdONcUAEdVIdNAaEcDAA MY HOUSEiSOFTNESSkPcIAQcQcUNdGAbEUREUTgGEEEEdUAEaTfUAESHAE NYAMlPbRAE",
  "fKAaAMIeEUAEMdXdUMbPdOPbQcUAEaTfJAEMLIfEEa EPOCHhUXeKOMdSHIEEdUEbOPfTAPcUMdYI BETWEENhCLEAVER",
  "kZAQcUQeObPA PEOPLEfLURALhAaMdEEMcUTbXdIaEEQcTdOaONdUaAEbQcEbMdRAEbQcEUXdIMGBAgSAAcEEbTcHEUAEQ",
  "fIQcOaQdOMcUAENfTAAaQcEN NTEUMiMbQcENbUaAEQfOOaNcQcUAEcMaAEfVEEbUAEeOMdWEUXdUEbOdYAPcEUAEaTdM",
  "bXdIEEcTcOQ COVERfSWIMMINGlUAENdEQcNbQfF EEcFOMdKAbENbTcObPAcUbYEEeLAbIbOQdMaAbBAAcENdEEEEeO",
  "cNDAAdGGAcKWAENgIbJAEMdUAEeSHAdTEEdUaAEdYIdPEEbUXdUAEeREEbNbUXdIEEcIcUcSAMBAeEUXdHIIcObUcIbUU",
  "dTAAbEcETdUbVUEQeWAbUEdYAbOQkIbUAEcEdRAEcEEbNbUXdIEEcIcUcSAMBAeEUXdHEUXdIIcObUcIbUUdTAAbEcENbT",
  "cIcUbWAbUEdYAbOQcUQkNJAEMLIhQUESTION MARKnSEMICOLONnNANAdJOcKaNOTE WITH DOLLAR SIGNlEURO SIGN",
  "jPOUND SIGNkYEN SIGNuR CHARTfOF SOAPiBER POLEjSEBALLfKETaBALL AND HOOP",
  "qSA VAH COMBINING HIGH TONEf-LOW TONEnLOW TONEf-MID TONEmMID TONEsFULL STOPjLETTER AbBAcCE",
  "cDHIIdOcEaEbNNIeFAcGAHcBUdHWAHeIbJOcKAbPAHeMBEdOaOcPAcSEcTOcUaWUdVUcWAaDDAfYEINdIEdZOrT",
  "aAK CONSONANT SIGN HbNGrLETTER AbBAcCAcDAcGAcHAcIbJAcKARO BAhLAcMAaNDAILING HAcNAcSAmBAdNAbDA",
  "cGAcORTHERN TAkYAdPAaKPAK WAjRAcSAbIMALUNGUN AbGAcHAcLAcMAcPAcRAcSAcWAcYAmOUTHERN TAlUbWAcYA",
  "jPANGOLATfONGONANkSIGN TOMPIjYMBOL BINDU JUDULfNA METEKiPANGOLAThINARBORASxVOWEL SIGN EaEcI",
  "bKARO IbOgObPAKPAK EiUa FOR SIMALUNGUN SAziHaTUBeTERYgEACH WITH UMBRELLA",
  "qMED ASCENDING MUSICAL NOTESxDESCENDING MUSICAL NOTESyEIGHTH NOTESmSIXTEENTH NOTEStNScR FACE",
  "fDED PERSONlTING HEARTkVEReCAUSEfDbER MUGfTLEeLaLa PEPPERgSYMBOLgWITH CANCELLATION STROKE",
  "zHOP BELLkNGALI ABBREVIATION SIGNqNJIdU LENGTH MARKoCURRENCY DENOMINATOR SIXTEEN",
  "tNUMERATOR FOUReONEa LESS THAN THE DENOMINATORzeTHREEeWOwDIGIT EIGHTfFIVEdOUReNINEeONEdSEVEN",
  "eIXdTHREEeWOdZEROkGANDA MARKkISSHARgLETTER AaAbIbUcBAbHAdCAbHAdDAbDAbHAdHAdEbGAbHAdHAcIaIcJA",
  "bHAdKAbHAaNDA TAjLAcMAcNAbGAcNAcYAdObPAbHAdRAa WITH LOWER DIAGONALoMIDDLE DIAGONALwHAcRAdSAbHA",
  "cSAdTAbHAcTAbHAeUaUcVEDIC ANUSVARAnOCALIC LaLcRaRkYAbYAkRUPEE MARKeSIGNkSANDHI MARK",
  "kIGN ANUSVARAhVAGRAHAiCANDRABINDUlNUKTAfVIRAMAeSARGAmVOWEL SIGN AAbIbUcEbIaIcObUaUcVOCALIC LaL",
  "cRaRzbT ARROW POINTING DOWNWARDS THEN NORTH EASTzqO BOXgZENE RINGa WITH CIRCLEwT SYMBOLhWEEN",
  "fVERAGE BOXlHAIKSUKI DANDAeIGIT EIGHTfFIVEdOUReNINEeONEdSEVENeIXdTHREEeWOdZEROjOUBLE DANDA",
  "mGAP FILLER-1b2mHUNDREDS UNIT MARKsLETTER AaAbIbUcBAbHAdCAbHAdDAbDAbHAdHAdEbGAbHAdHAcIaIcJAbHA",
  "dKAbHAdLAcMAcNAbGAcNAcYAdObPAbHAdRAcSAbHAcSAdTAbHAcTAbHAeUaUcVAbOCALIC LbRaRkYAjNUMBER EIGHTaY",
  "gFIFTYdVEdORTYdUReNINEaTYgONEdSEVENaTYgIXaTYfTENcHIRTYeREEeWENTYeOkSIGN ANUSVARAhVAGRAHA",
  "iCANDRABINDUlVIRAMAeSARGAmVOWEL SIGN AAbIbUcEbIaIcObUaUcVOCALIC LbRaRvWORD SEPARATORxICYCLE",
  "bISThG REVERSE SOLIDUSpSOLIDUSjKINIeLLED CAPgIARDShOHAZARD SIGNmRDbTHDAY CAKElSONdTCOIN SIGN",
  "jING LIPjLACK BOWTIEgCENTRE WHITE STARqHESS BISHOPa ROTATED NINETY DEGREES",
  "oTWO HUNDRED SEVENTY DEGREESzrEQUIHOPPERa ROTATED NINETY DEGREESziKINGa ROTATED NINETY DEGREES",
  "oTWO HUNDRED SEVENTY DEGREESzoNIGHTa ROTATED FORTY-FIVE DEGREESsNINETY DEGREES",
  "oONE HUNDRED THIRTY-FIVE DEGREESzgTHREE HUNDRED FIFTEEN DEGREESzdWO HUNDRED SEVENTY DEGREES",
  "pTWENTY-FIVE DEGREESzp-BISHOPgQUEENfROOKlPAWNa ROTATED NINETY DEGREES",
  "oTWO HUNDRED SEVENTY DEGREESzpQUEENa ROTATED NINETY DEGREESoTWO HUNDRED SEVENTY DEGREESzqROOK",
  "a ROTATED NINETY DEGREESoTWO HUNDRED SEVENTY DEGREESzpTURNED BISHOPgKINGdNIGHTgPAWNeQUEENfROOK",
  "qIRCLEa FOR RECORDkWITH DOWN ARROWkTWO WHITE DOTSoWHITE DOT RIGHTzbLUB SUITiROSS ON SHIELD",
  "oURVED DOWNWARDS AND LEFTWARDS ARROWpRIGHTWARDS ARROWzfLEFTWARDS AND DOWNWARDS ARROW",
  "pUPWARDS ARROWzcRIGHTWARDS AND DOWNWARDS ARROWpUPWARDS ARROWzdUPWARDS AND LEFTWARDS ARROW",
  "pRIGHTWARDS ARROWzkDIAMONDa CENTREDhMINUS WHITE XnON CROSSiSUITeWITH DOWN ARROW",
  "wOWN POINTING BACKHAND INDEXy-POINTING DOUBLE TRIANGLEpISOSCELES RIGHT TRIANGLEySMALL TRIANGLE",
  "oTRIANGLEsWARDS EQUILATERAL ARROWHEADzfRAUGHTS KINGeMANkOPLEThFLAGcORETTEhOLDER",
  "eUR POINTED STARrHARD SHELL FLOPPY DISKvEARTa SUITiXAGONgORIZONTAL ELLIPSEqURGLASS",
  "jLARGE CIRCLEgSQUARElEFT LANE MERGEkPOINTING BACKHAND INDEXoINDEXp-POINTING DOUBLE TRIANGLE",
  "a WITH VERTICAL BARziISOSCELES RIGHT TRIANGLEyPOINTERhSMALL TRIANGLEoTRIANGLEsWARDS BULLET",
  "gEQUILATERAL ARROWHEADzfOWER LEFT TRIANGLEnRIGHT TRIANGLEsZENGEhMEDIUM DIAMOND",
  "gOWN-POINTING TRIANGLEa CENTREDzfLEFT-POINTING TRIANGLEa CENTREDzeOZENGE",
  "hRIGHT-POINTING TRIANGLEa CENTREDzgSMALL DIAMONDhLOZENGEhSQUARElQUAREgUP-POINTING TRIANGLE",
  "a CENTREDzjOON LILITHlNIBdOCTAGONhPARALLELOGRAMmENNANTeTAGONhUSHPINhQUESTION MARK ORNAMENT",
  "wRECTANGLEiIGHT POINTING BACKHAND INDEXoINDEXp-POINTING DOUBLE TRIANGLEa WITH VERTICAL BAR",
  "ziISOSCELES RIGHT TRIANGLEyPENTAGONhOINTERhSMALL TRIANGLEoTRIANGLEa WITH DOUBLE VERTICAL BAR",
  "zsWARDS ARROWaHEADjBULLETgEQUILATERAL ARROWHEADzgOSETTEhSAFETY SCISSORSoCISSORShHOGI PIECE",
  "kKULL AND CROSSBONEStLIGHTLY SMALL CIRCLEgSQUAREuMALL DIAMONDhLOZENGEhSQUAREfTARiILING FACE",
  "lNOWMANgPADE SUITjQUAREa BUTTONgCENTREDhFOR STOPoTARdUN WITH RAYSnTELEPHONEiINY DIAMOND",
  "hLOZENGEhSQUAREkOUCHTONE TELEPHONEsRUCKeWO-WAY LEFT WAY TRAFFICyUNIVERSAL RECYCLING SYMBOL",
  "zP POINTING BACKHAND INDEXy-POINTING DOUBLE TRIANGLEpISOSCELES RIGHT TRIANGLEySMALL TRIANGLE",
  "oTRIANGLEsPER LEFT TRIANGLEnRIGHT TRIANGLEsWARDS EQUILATERAL ARROWHEADzeVERTICAL ELLIPSE",
  "hRECTANGLEpY SMALL DIAMONDhLOZENGEhSQUAREs-FEATHERED NORTH EAST ARROWqRIGHTWARDS ARROW",
  "qSOUTH EAST ARROWzbLETTER CAPITAL CbHbIbRbZtNK SYMBOLkOCK SEXTANT-1a2a3a4a5b6c5a6c6c4a5a6c6c5",
  "a6c6c3a4a5a6c6c56c6c4a5a6c6c5a6c6c2a3a4a5a6c6c5a6c6c4a5a6d5a6c6c3a4a5a6c6c5a6c6c4a5a6c6c5a6c6",
  "mSSOMeWFISHgUE BOOKeHEARTgBERRIESkOARcLD EIGHT SPOKED ASTERISKvFIVE SPOKED ASTERISK",
  "uGREEK CROSSlSALTIREgIX SPOKED ASTERISKtWHITE CIRCLEgSQUAREpMaBcNEcOKaMARKa TABSjScMERANG",
  "hPOMOFO FINAL LETTER GbHbKbPbToLETTER AaHbIaNNdMbNaGbNcUaNNeBaUcCaHcDbEaEbHbIbNaGbNcRcFbGaHbN",
  "bUbWcHbIaHbMbNNaNdRbUcJaIcKaWcLaHcMbNaGaGcNcOa WITH DOT ABOVEpEbMbNGbNcObUcPbQbRbSaHcTbUaNNdV",
  "bXbZaHbIbYqTTLE WITH POPPING CORKuOM ARC ANTICLOCKWISE ARROWxCURLY BRACKETnHALF BLACK CIRCLE",
  "mINTEGRALiLEFT PARENTHESISqRIGHT PARENTHESISwLEFT CORNERfROPeHALF BRACKETrPARENTHESIS",
  "lRIGHT CORNERfROPeHALF BRACKETsSQUARE BRACKETa OVER TOP SQUARE BRACKETznTORTOISE SHELL BRACKET",
  "zcUQUETa OF FLOWERSqW AND ARROWkL OF HYGIEIAkWITH SPOONlINGeTIEa WITH LEFT HALF BLACK",
  "pRIGHT HALF BLACKzbX DRAWINGS DOUBLE DOWN AND HORIZONTALkLEFTeRIGHToHORIZONTAL",
  "kUP AND HORIZONTALkLEFTeRIGHTmVERTICALa AND HORIZONTALkLEFTeRIGHT",
  "xWN DOUBLE AND HORIZONTAL SINGLErLEFT SINGLElRIGHT SINGLExHEAVY AND HORIZONTAL LIGHT",
  "qLEFT LIGHTfUP LIGHTnRIGHT LIGHTfUP LIGHToUP HORIZONTAL LIGHTzeLIGHT AND HORIZONTAL HEAVY",
  "qLEFT HEAVYfUP HEAVYnRIGHT HEAVYfUP HEAVYoUP HORIZONTAL HEAVYzeSINGLE AND HORIZONTAL DOUBLE",
  "rLEFT DOUBLElRIGHT DOUBLEzdHEAVY DOUBLE DASH HORIZONTALkVERTICALsWNa AND HORIZONTALkLEFTeRIGHT",
  "oHORIZONTALkLEFTa AND LIGHT RIGHTuQUADRUPLE DASH HORIZONTALkVERTICALxRIGHT",
  "fTRIPLE DASH HORIZONTALkVERTICALuUPa AND HORIZONTALkLEFTdIGHT DOWNkRIGHTmVERTICAL",
  "a AND HORIZONTALkLEFTeRIGHTyLEFT DOWN HEAVY AND RIGHT UP LIGHTzeHEAVY AND RIGHT DOWN LIGHT",
  "kUP LIGHTiVERTICAL LIGHTzfLIGHT AND RIGHT DOWN HEAVYkUP HEAVYiVERTICAL HEAVY",
  "zfUP HEAVY AND RIGHT DOWN LIGHTziIGHT ARC DOWN AND LEFTeRIGHToUP AND LEFTeRIGHTqDIAGONAL CROSS",
  "fDIAMONDhMIDDLE LEFT TO LOWER CENTREa TO MIDDLE RIGHTzdUPPER CENTRE TO MIDDLE RIGHT",
  "a TO LOWER CENTREzzcRIGHT TO LOWER CENTREmUPPER CENTRE TO MIDDLE LEFT TO LOWER CENTRE",
  "zzjUPPER CENTRE TO MIDDLE LEFTa AND MIDDLE RIGHT TO LOWER CENTREzhTO LOWER CENTRE",
  "a TO MIDDLE RIGHTzlRIGHTa AND MIDDLE LEFT TO LOWER CENTREzgTO LOWER CENTREa TO MIDDLE LEFT",
  "zzdLEFT TO LOWER RIGHTtRIGHT TO LOWER LEFTziOUBLE DASH HORIZONTALkVERTICALsWNa AND HORIZONTAL",
  "kLEFTeRIGHToHORIZONTALa WITH VERTICAL STROKEzgLEFTa AND HEAVY RIGHTuQUADRUPLE DASH HORIZONTAL",
  "kVERTICALxRIGHTfTRIPLE DASH HORIZONTALkVERTICALuUPa AND HEAVY DOWNjORIZONTALkLEFTeRIGHT",
  "mVERTICALa AND HORIZONTALkLEFTeRIGHTyRIGHT DOWN HEAVY AND LEFT UP LIGHT",
  "zdHEAVY AND LEFT DOWN LIGHTkUP LIGHTiVERTICAL LIGHTzeLIGHT AND LEFT DOWN HEAVYkUP HEAVY",
  "iVERTICAL HEAVYzeUP HEAVY AND LEFT DOWN LIGHTzjUP DOUBLE AND HORIZONTAL SINGLErLEFT SINGLE",
  "lRIGHT SINGLExHEAVY AND DOWN HORIZONTAL LIGHTvHORIZONTAL LIGHTqLEFT DOWN LIGHTkLIGHT",
  "kRIGHT DOWN LIGHTkLIGHTvLIGHT AND DOWN HORIZONTAL HEAVYvHORIZONTAL HEAVYqLEFT DOWN HEAVYkHEAVY",
  "kRIGHT DOWN HEAVYkHEAVYvSINGLE AND HORIZONTAL DOUBLErLEFT DOUBLElRIGHT DOUBLE",
  "zbVERTICAL DOUBLE AND HORIZONTAL SINGLErLEFT SINGLElRIGHT SINGLExHEAVY AND HORIZONTAL LIGHT",
  "qLEFT LIGHTkRIGHT LIGHTvLIGHT AND HORIZONTAL HEAVYqLEFT HEAVYkRIGHT HEAVY",
  "vSINGLE AND HORIZONTAL DOUBLErLEFT DOUBLElRIGHT DOUBLEzrING GLOVEkYaS SYMBOLkPHcRAHMI DANDA",
  "eIGIT EIGHTfFIVEdOUReNINEeONEdSEVENeIXdTHREEeWOdZEROjOUBLE DANDAmLETTER AaAbIbUcBAbHAdCAbHAdDA",
  "bDAbHAdHAdEbGAbHAdHAcIaIcJAbHAdKAbHAdLAbLAdMAcNAbGAcNAcYAdOaLD TAMIL LLAbLAeNNNAeRRAdSHORT EbO",
  "rPAbHAdRAcSAbHAcSAdTAbHAcTAbHAeUaUcVAbOCALIC LaLcRaRkYAjNUMBER EIGHTaYgFIFTYdVEdORTYdUReJOINER",
  "gNINEaTYgONEa HUNDREDhTHOUSANDmSEVENaTYgIXaTYfTENcHIRTYeREEeWENTYeOkPUNCTUATION CRESCENT BAR",
  "mDOTbUBLE DOTkLINEdOTUSrSIGN ANUSVARAiCANDRABINDUlJIHVAMULIYAlOLD TAMIL VIRAMAqUPADHMANIYA",
  "lVISARGAmVIRAMAfOWEL SIGN AAbIbUcBHATTIPROLU AAoEbIaIcOaLD TAMIL SHORT EbOrUaUcVOCALIC LaLcRaR",
  "zILLE PATTERN BLANKfDOTS-1a2a3a4a5a6a7a8c8c7a8c8c6a7a8c8c7a8c8c5a6a7a8c8c7a8c8c6a7a8c8c7a8c8c4",
  "a5a6a7a8c8c7a8c8c6a7a8c8c7a8c8c5a6a7a8c8c7a8c8c6a7a8c8c7a8c8c3a4a5a6a7a8c8c7a8c8c6a7a8c8c7a8c8",
  "c5a6a7a8c8c7a8c8c6a7a8c8c7a8c8c4a5a6a7a8c8c7a8c8c6a7a8c8c7a8c8c5a6a7a8c8c7a8c8c6a7a8c8c7a8c8c2",
  "a3a4a5a6a7a8c8c7a8c8c6a7a8c8c7a8c8c5a6a7a8c8c7a8c8c6a7a8c8c7a8c8c4a5a6a7a8c8c7a8c8c6a7a8c8c7a8",
  "c8c5a6a7a8c8c7a8c8c6a7a8c8c7a8c8c3a4a5a6a7a8c8c7a8c8c6a7a8c8c7a8c8c5a6a7a8c8c7a8c8c6a7a8c8c7a8",
  "c8c4a5a6a7a8c8c7a8c8c6a7a8c8c7a8c8c5a6a7a8c8c7a8c8c6a7a8c8c7a8c8sNdEADbK PERMITTED HERE",
  "qST-FEEDINGlVEdICKcDE WITH VEILlGE AT NIGHTmEFCASEeSeOCCOLIfKEN BAR",
  "dCIRCLE WITH NORTHWEST ARROWzcHEARTjOMcWN HEARTkSbUBBLE TEAeSfCKETeGaINESE END OF SECTION",
  "oLETTER AbBAcCAcDAcGAcHAcJAcKAcLAcMAbPAdNAbGAbKAdRAcYAbCAePAcRAcSAcTAcVAcYAjPALLAWA",
  "hVOWEL SIGN AEcEbIbObUtHID LETTER AbBAcDAcGAcHAcIbKAcLAcMAcNAbGAdPAcRAcSAcTAcUbWAcYA",
  "jVOWEL SIGN IbUqILDING CONSTRUCTIONtLLETa OPERATORlHORNa WITH SOUND WAVESvSEYEgRRITOfSa STOP",
  "fT IN SILHOUETTEoS IN SILHOUETTErTTERaFLYiYTE ORDER MARKnZANTINE MUSICAL SYMBOL AGOGI ARGI",
  "bOTERIiGORGIbOTERIjMESIcTRIAgPOLI ARGIeGORGIpNATRICHISMAkTIKENOKYLISMAhMAjPESO EKFONITIKON",
  "kXO NEOlLIcODERMA ARCHAIONiNEOjSTROFOI SYNDESMOS NEOnTELOUS ICHIMATOSsSa DIPLIfNEOlTHEMAhRGON",
  "bSYNTHETONlKTIKO DIcGAcKEcNIcPAcVOUdZOkCHAMILIbONgOREVMA ARCHAIONiNEOkROA KLITONgSPATHIgZYGOS",
  "lDASEIAfIARGONeSTOLI APLI MEGALIfIKRIkDIPLIfTHESEOSoESIS APLI DYO DODEKATA",
  "rDIGRAMMOS EX DODEKATAvMONOGRAMMOS TESSERA DODEKATAzdTETARTIMORIONmRIGRAMMOS OKTO DODEKATA",
  "vTIMORIONqFTOGGOS OUkGORGONa PARESTIGMENON ARISTERA ANOdKATOnDEXIAzRAMMA GGjPLIa ARCHAIONnYO",
  "dEKSTREPTONjLAFRONgNARXIS KAI FTHORA VOUuDOFONONiPEGERMAhTERON ARGOSYNTHETONnPARAKALESMA",
  "rXO EKFONITIKONpFANEROSIS DIFONIASiMONOFONIASkTETRAFONIASuHTORA SKLIRON CHROMA VASIS",
  "zbTHORA ARCHAIONa DEYTEROU ICHOUxDIATONIKI DIcKEcNANAdI ANOdKATOhPAcZOmENARMONIOS ANTIFONIA",
  "uI YFESIS TETARTIMORIONwMALAKON CHROMA DIFONIASiMONOFONIASzNAOS ICHOSjENANO",
  "gSKLIRON CHROMA SYNAFIgVASISmDIATONON DIzbGENIKI DIESISgYFESISmORGON ARCHAIONiNEO ANOdKATO",
  "iPARESTIGMENON ARISTERAiDEXIAvSYNTHETONlTHMIKON N APLOUNgDIPLOUNtRONTHISMATAmICHADINgMIDIARGON",
  "hFONONeTHORAbONjSAKIA TELOUS ICHIMATOSvON ARCHAIONiNEOiKATAVA TROMIKONjSMAgHISTI",
  "hENTIMA ARCHAIONiNEO ANOdKATOeMESOjTAa ARCHAIONiNEO ANOdKATOeMESOrLASMAa ANOdKATOkONTEVMA",
  "a ALLOlRONISfUFISMAhRATIMA ALLOdRCHAIONiNEOeTAdOKOUFISMAiYPORROONnEMASTIhYLISMA",
  "hLEIMMA DYO CHRONONlENOS CHRONOUmIMISEOS CHRONOUpTESSARON CHRONONpRION CHRONONsMOIeYGISMA",
  "hMARTYRIA ALLI DEYTEROS ICHOSoPROTOS ICHOSrDEYTEROS ICHOSoLEGETOS ICHOSnPLAGIOS ICHOS",
  "fTETARTOS ICHOSvROTOS ICHOShVARYS ICHOSqTETARTOS ICHOSfLEGETOS ICHOSvRIFONIASgTOS ICHOS",
  "mVARYS ICHOStIKRON ISONlNANAeOLIGON ARCHAIONiNEOjMALONfXEIA DIPLIfEKFONITIKONlNEOeI ARCHAION",
  "oYRANISMA ARCHAIONiNEOnPARAKALESMA ARCHAIONiNEOkLITIKIa ARCHAIONiNEOmICHONhELASTONa NEO",
  "kRISPOMENIjTASMAcTIbOKOUFISMAoIASMA ARCHAIONiNEOjSIFISTOLYGISMAhNa NEOfPARAKALESMAlSYNAGMAmLI",
  "bONgRAPISMAgEVMAfSAXIMATAhEISMAa NEOjIMANSIS ARSEOSa DISIMOUhTETRASIMOUjRISIMOUpTHESEOS",
  "a DISIMOUhTETRASIMOUjRISIMOUyTAVROSa APODEXIAoIGMAeRAGGISMATAlYNAGMA ARCHAIONiMETA STAVROUmNEO",
  "iEVMAfRMAaTIKIjTELEIAeSSERAfTRAPLIhHEMAa APLOUNhTISMOS ESOcXOmS KAI APOTHESoITAeINAGMAgRIA",
  "bGORGONgPLIeOMIKOLYGISMAhN ALLOdRCHAIONiNEOfPARAKALESMAkSIFISTONjSYNAGMAoVAREIA DIPLI",
  "fEKFONITIKONlNEOeI ARCHAIONoTHYfXIRON KLASMAmYFEN ANOdKATOgSIS APLI DYO DODEKATA",
  "rDIGRAMMOS EX DODEKATAvMONOGRAMMOS TESSERA DODEKATAzdTRIGRAMMOS OKTO DODEKATAvTIMORION",
  "rPOKRISISa DIPLImRROIfSILIzgCACTUSeDA UNAfUCEUSgLENDARfL ME HANDkMERAa WITH FLASHoPINGfN",
  "aADIAN SYLLABICS AaAaIbYcIaVILIK BiNbTHAPASCAN MbSlYcBEAVER DENE LbRmIBLE-CREE YlLACKFOOT AbE",
  "bIbKAbEbIbOcNAbEbIbOcObSbWaAbEbIbOmCaAaAaIcRRIER CHAbEaEcIbObUdDEEbNE GEEfTAL ShIbLAbEaEcIbObU",
  "cZAbEaEcIbObUdEEcGAaAcEaEcHAbEaEcIbObUcIbObUbWAbUdHaEEcIbWAbEaEcIbObUdIaNITIAL ZjJAbEaEcIbJAbE",
  "aEcIbObUcObUbWAdKHAbEaEcIbObUcKaAbEaEcIbObUdLAbEaEcHAbEaEcIbObUcIbObUcMAbEaEcIbObUcNAbEaEcGbI",
  "bObUcPaAbEaEcIbObUcRAbEaEcIbObUcSAbEaEcHaAbEaEcIbObUcIbObUcTHAbEaEcIbObUcLAbEaEcHAbEaEcIbObUcI",
  "bObUcSAbEaEcIbObUcTAbEaEcIbObSAbEaEcIbObUcUdWAbEaEcIbObUcYAbEaEcIbObUcZaAbEaEcIbObUjEbHI SIGN",
  "hIaIcOaOcWAaAcEbIaIcOaOeEaASTERN WiNcFaAaAaIdEbIaIbNAL ACUTEfBOTTOM HALF RINGqDOUBLE ACUTE",
  "fSHORT VERTICAL STROKESzcWN TACKjGRAVEfMIDDLE DOTkPLUSeRAISED DOTjIGHT HALF RINGnNG",
  "eSHORT HORIZONTAL STROKEwMALL RINGkTOP HALF RINGsOaOcULL STOPiWAAeGLOTTAL STOPmHKbYPHENgIaIbN",
  "cKaAaAaIcYcEbIaIcOaOcWaAaAbYcEbIaIcOaOeLaAaAaIcYcEbHaAaAcIaIcOaOdIaIcOaOcWAaAcEbIaIcOaOeMaAaA",
  "aIcYcEaDIAL LbRhHbIaIcOaOaSE-CREE SKmWAaAcEbIaIcOaOeNa-CREE THEbIaIkAaAaIcSKAPI CWAAeKWAAeMWAA",
  "eNWAAeS-WcCWAdKWaAdPWAdTWAdWAAeTWAAeWAAcOOdYWAAkTTILIK HAaAcIaIcOaOdSHRAaAcIaIcOaOmYcEbGaAaAaI",
  "cIcIaIcOaOdHbIaIcNGaAaAcIaIcOaOeOaObYcUNAVIK HaAaAcEbIaIcOaOgUT HiWAaAcEbIaIcOaOeOaJIBWAY CbK",
  "bMbNaWIaIcOaOePbSaHcTiNbObYcPaAaAaIcYcEbIaIcOaObYcWAaAcEbIaIcOaObYeQaAaAaIcIcIaIcOaOdR",
  "a-CREE REbWEjAaAaIcYcEbIaIcOaOcWAaAcEEcIaIcOaOeSaAaAaIcYaISI HAbEbIbOaOdJIbUaUdMbSHAbEbIbOaO",
  "cWEeTHcYIiEbHaAaAbYcEbIaIcOaObYcWAaAcEbIaIcOaObYeIaIcOaObUTH-SLAVEY KAHcEHcIHcOHoYcPAbEbIbOcW",
  "aAaAcEbIaIcOaOeTaAaAaIcYcEbHa-CREE THaAaAcEbIaIcOaOkAaAcEbIaIcOaOcWAaAcEdIaIcLHAbEbIbOaOcWEeO",
  "aOcTAbEbHaAaAcEbIbOaOcWEdIbOcWAaAcEbIaIcOaOdYAbEbIbOdWAaAbYcEaST-CREE CWAaAcEbIaIcOaOeFWAAeKWA",
  "aAcEbIaIcOaOeLaAaAcEbOaOcWAaAcEbIaIcOaOeMaWAaAcEbIaIcOaOeNWAaAcEdPaWAaAcEbIaIcOaOeRaAbEbIbO",
  "bWAAeSHWAaAcEbIaIcOaOeWAaAcEbIaIcOaOeTHWAAeWAaAcEbIaIcOaOeWAaAcEbIaIcOaOdYaWAaAcEbIaIcOaO",
  "kERN WiIaIcOaOaDS-CREE FINAL THiTHaAbEbIbObWAaAcEEcIaIcOaOqYa-CREE COOdKOOdLOOdMOOdNOOdOOcPOO",
  "cWAAeSOOdTOOdWbYOOjAaAaIcYcEbIaIcOaObYcWAaAcEbIaIcOaOuCELa CHARACTERjTAGeLATION XjRdDLEcY",
  "cNED FOODiOEdPITULUMgRICORNhR SLIDINGiD FILE BOXiINDEXa DIVIDERSqE OFdTa INSERTION POINT",
  "sIAN LETTER Aa2cBbC-18c39eDa2cEa2cGa2cIaIcKa2cLaDa2dMaBa2b3b4dNaDbGbNcObPa2cQbRaRcSaHa2cSbTa2",
  "dTaTa2dUaUaUa2b3bUeXmONbUSEL HORSElP STREAMERjENTRY SAWkRIAGE RETURNlOTeSTLEeTa FACE",
  "a WITH TEARS OF JOYmWRY SMILEvUCASIAN ALBANIAN CITATION MARKnLETTER ALTcORdBETdCARbYNdHAaTcI",
  "bOYdYAWbYeDATcYANdZAYcYAYfEBbYNdFAMdGHEYSeIMdHEYTeINYAdRBcWNdJAYNdHOXeKARcIWdLANcYITeMAQdNOWC",
  "eONcPENcIWReQARbYdRATdSEYKdHAaKcOYeTAScIWRdYAYeVEYZeXEYNeYAYDdOWDeZARLdHAbILzcTION SIGNlCH",
  "cEDI SIGNfLLAfLTIC CROSSkNT SIGNfRE LINE SYMBOLmLINE LOW LINEiOVERLINErRESeGJcHAINScR",
  "cKMA AU MARKhDANDAeIGIT EIGHTfFIVEdOUReNINEeONEdSEVENeIXdTHREEeWOdZEROjOUBLE DANDAmLETTER AA",
  "cBAAcHAAeCAAcHAAeDAAcDAAcHAAeHAAeEbGAAcHAAeHAAdIbJAAcHAAeKAAcHAAeLAAcHAAeMAAdNAAcGAAdNAAdYAA",
  "ePAAcHAAeRAAdSAAdTAAcHAAdTAAcHAAfUbVAAdWAAdYAAcYAAlMAAYYAAhO MARKgQUESTION MARKnSECTION MARK",
  "lIGN ANUSVARAiCANDRABINDUlVISARGAmVIRAMAfOWEL SIGN AaAbIbUcEaIcIaIcOaIcUaU",
  "rM CONSONANT SIGN FINAL HbMbNGiLAcRAcWAcYArDIGIT EIGHTfFIVEdOUReNINEeONEdSEVENeIXdTHREEeWO",
  "dZEROkLETTER AaIcBAbBAcHAdCHAbHAeDAbDAcHAdEbFINAL CHcGbKbLbNaGcPbRbSScTbYhGAbHAdHAcIbJAbHAdKA",
  "bHAdLAcMAbUEdNAbGAbUEdHAbJAcUEdUEdObPAbHAcPAdRAcSAbSAdTAbHAdUbVAcYAjPUNCTUATION DANDA",
  "eOUBLE DANDAmSPIRALgTRIPLE DANDAyVOWEL SIGN AAbIbUcEIcIaIcOaEcUaEpRACTER TABULATIONa SET",
  "dWITH JUSTIFICATIONzdIEjT WITH DOWNWARDS TRENDpUPWARDS TRENDa AND YEN SIGNzkECK MARKfER BOARD",
  "a FILLpERING MEGAPHONEoSE WEDGEjQUERED FLAGlROKEE LETTER AbDAbEbIbLAcObUbVcEbGAbEbIbObUbVcHAbE",
  "bIbNAcObUbVcIbKAcLAbEbIbObUbVcMAbEbIbObUbVcNAaHcEbIbObUbVcObQUAbEbIbObUbVdSaAbEbIbObUbVcTAbEbI",
  "bLAbEbIbObUbVcSAbEbIbObUbVdUbVbWAbEbIbObUbVcYAbEbIbObUbVjSMALL LETTER AbDAbEbIbLAcObUbVcEbGAbE",
  "bIbObUbVcHAbEbIbNAcObUbVcIbKAcLAbEbIbObUbVcMAbEbIbObUbVcNAaHcEbIbObUbVcObQUAbEbIbObUbVdSaAbEbI",
  "bObUbVcTAbEbIbLAbEbIbObUbVcSAbEbIbObUbVdUbVbWAbEbIbObUbVcYAbEbIbObUbVuRIESdY BLOSSOMlSTNUT",
  "gI RHOeCKENeLDaREN CROSSINGoPMUNKfRONeOCOLATE BARkPSTICKShRASMIAN LETTER ALEPHeYINeBETH",
  "eCURLED WAWkDALETHgGIMELfHEaTHeKAPHeLAMEDHgMEMdNUNdPEcRESHeSAMEKHfHINdMALL ALEPHlTAWdWAWdYODH",
  "eZAYINmNUMBER FOUReONEa HUNDREDlTENcHREEeWENTYeOtRISTMAS TREEmURCHfINEMA",
  "eRCLE DIVIDED BY HORIZONTAL BAR AND TOP HALF DIVIDED BY VERTICAL BAR",
  "zzmWITH ALL BUT UPPER LEFT QUADRANT BLACKziHORIZONTAL BARoLEFT HALF BLACKoOWER HALF BLACK",
  "qRIGHT HALF BLACKqSMALL CIRCLE TO THE RIGHTyUPERIMPOSED XoTWO HORIZONTAL STROKES TO THE RIGHT",
  "zkUPPER HALF BLACKkRIGHT QUADRANT BLACKzbVERTICAL FILLtD ANTICLOCKWISE ARROW",
  "g-ROTATED DIVISION SIGNzjSTERISK OPERATORrBOLD XfULLETgC WITH OVERLAID BACKSLASHyCbD",
  "bROSS FORMEEa WITH FOUR DOTSjTWO DOTSuPOMMEEhING LANESoDASHdIGIT EIGHTfFIVEdOUReNINEeONEdSEVEN",
  "eIXdTHREEeWOdZEROiVISION SIGNdLASHnOLLAR SIGN WITH OVERLAID BACKSLASHziT OPERATORmEQUALS",
  "gGREATER-THANmHANGUL CHIEUCHa AiIEUCa AhHIEUHa AhIEUNGa AbUhKHIEUKHa AiIYEOKa AiMIEUMa AhNIEUN",
  "a AhPHIEUPHa AiIEUPa AhRIEULa AhSIOSa AgTHIEUTHa AiIKEUTa AoEAVY WHITE RIGHTWARDS ARROW",
  "zcORIZONTAL BAR WITH NOTCHyUMAN FIGUREmIDEOGRAPH ACCEPTfDVANTAGEiLLIANCEhTTENTIONjCENTRE",
  "fONGRATULATIONmPYcRRECThEARTHeIGHTeNTERPRISEjXCELLENTjFEMALEfINANCIALhREcVEdOUReHAVEdIGHeITEM",
  "eKINDERGARTENlOTOeLABOReEFTdOWdMALEdEDICINEgTALeOONeNAMEdIGHTdNEeONEdPRINTfQUESTIONiRELIGION",
  "gSOURCEfTdIGHTfSCHOOLfECRETeVENeIXcOCIETYgPECIALgTOCKdUDYeUITABLEgNbPERVISEjTENcHREEeWOdWATER",
  "eOODnNFORMATION SOURCErTALIC LATIN CAPITAL LETTER CbRzeKATAKANA AbEbHAbEbIbObUcIbKAbEbIbObUcMA",
  "bEbIbObUcNAbEbIbObUcObRAbEbIbObUcSAbEbIbObUcTAbEbIbObUcUbWAbEbIbOcYAbObU",
  "kOREAN CHARACTER CHAMKOgJUEUIwLATIN CAPITAL LETTER AbBbCbDbEbFbGbHbIbJbKbLbMbNbObPbQbRbSbTbUbV",
  "bWbXbYbZqSMALL LETTER AbBbCbDbEbFbGbHbIbJbKbLbMbNbObPbQbRbSbTbUbVbWbXbYbZtESS-THANjMINUS",
  "eULTIPLICATION SIGN WITH CIRCUMFLEX ACCENTzrNUMBER EIGHTEENdY ON BLACK SQUAREvLEVENgFIFTEENdY",
  "a ON BLACK SQUAREuORTYa EIGHTfFIVEdOUReNINEeON BLACK SQUAREnEdSEVENeIXdTHREEeWOhURTEEN",
  "iNINETEENiSEVENTEENdY ON BLACK SQUAREwIXTEENdY ON BLACK SQUAREvTENa ON BLACK SQUAREsHIRTEENdY",
  "a EIGHTfFIVEdOUReNINEeON BLACK SQUAREnEdSEVENeIXdTHREEeWOjWELVEdNTYa EIGHTfFIVEdOUReNINE",
  "eON BLACK SQUAREnEdSEVENeIXdTHREEeWOrOPEN CENTRE EIGHT POINTED STARzfPARALLELhERPENDICULARmLUS",
  "dOSTAL MARKlREVERSE SOLIDUSoING OPERATORnSQUAREgTIMESeRIANGLEa DOWNnVERTICAL BARmWHITE BULLET",
  "gSTARjZcXbZERO WITH SLASHtULATION FUNCTIONpMFLEX ACCENTmS TENTjTYSCAPEa AT DUSK",
  "qJK COMPATIBILITY IDEOGRAPH-2F800b1b2b3b4b5b6b7b8b9bAbBbCbDbEbFc10b1b2b3b4b5b6b7b8b9bAbBbCbDbE",
  "bFc20b1b2b3b4b5b6b7b8b9bAbBbCbDbEbFc30b1b2b3b4b5b6b7b8b9bAbBbCbDbEbFc40b1b2b3b4b5b6b7b8b9bAbB",
  "bCbDbEbFc50b1b2b3b4b5b6b7b8b9bAbBbCbDbEbFc60b1b2b3b4b5b6b7b8b9bAbBbCbDbEbFc70b1b2b3b4b5b6b7b8",
  "b9bAbBbCbDbEbFc80b1b2b3b4b5b6b7b8b9bAbBbCbDbEbFc90b1b2b3b4b5b6b7b8b9bAbBbCbDbEbFcA0b1b2b3b4b5",
  "b6b7b8b9bAbBbCbDbEbFcB0b1b2b3b4b5b6b7b8b9bAbBbCbDbEbFcC0b1b2b3b4b5b6b7b8b9bAbBbCbDbEbFcD0b1b2",
  "b3b4b5b6b7b8b9bAbBbCbDbEbFcE0b1b2b3b4b5b6b7b8b9bAbBbCbDbEbFcF0b1b2b3b4b5b6b7b8b9bAbBbCbDbEbF",
  "d900b1b2b3b4b5b6b7b8b9bAbBbCbDbEbFc10b1b2b3b4b5b6b7b8b9bAbBbCbDbEbFc20b1b2b3b4b5b6b7b8b9bAbBbC",
  "bDbEbFc30b1b2b3b4b5b6b7b8b9bAbBbCbDbEbFc40b1b2b3b4b5b6b7b8b9bAbBbCbDbEbFc50b1b2b3b4b5b6b7b8b9",
  "bAbBbCbDbEbFc60b1b2b3b4b5b6b7b8b9bAbBbCbDbEbFc70b1b2b3b4b5b6b7b8b9bAbBbCbDbEbFc80b1b2b3b4b5b6",
  "b7b8b9bAbBbCbDbEbFc90b1b2b3b4b5b6b7b8b9bAbBbCbDbEbFcA0b1b2b3b4b5b6b7b8b9bAbBbCbDbEbFcB0b1b2b3",
  "b4b5b6b7b8b9bAbBbCbDbEbFcC0b1b2b3b4b5b6b7b8b9bAbBbCbDbEbFcD0b1b2b3b4b5b6b7b8b9bAbBbCbDbEbFcE0",
  "b1b2b3b4b5b6b7b8b9bAbBbCbDbEbFcF0b1b2b3b4b5b6b7b8b9bAbBbCbDbEbFdA00b1b2b3b4b5b6b7b8b9bAbBbCbD",
  "bEbFc10b1b2b3b4b5b6b7b8b9bAbBbCbDfF900b1b2b3b4b5b6b7b8b9bAbBbCbDbEbFc10b1b2b3b4b5b6b7b8b9bAbB",
  "bCbDbEbFc20b1b2b3b4b5b6b7b8b9bAbBbCbDbEbFc30b1b2b3b4b5b6b7b8b9bAbBbCbDbEbFc40b1b2b3b4b5b6b7b8",
  "b9bAbBbCbDbEbFc50b1b2b3b4b5b6b7b8b9bAbBbCbDbEbFc60b1b2b3b4b5b6b7b8b9bAbBbCbDbEbFc70b1b2b3b4b5",
  "b6b7b8b9bAbBbCbDbEbFc80b1b2b3b4b5b6b7b8b9bAbBbCbDbEbFc90b1b2b3b4b5b6b7b8b9bAbBbCbDbEbFcA0b1b2",
  "b3b4b5b6b7b8b9bAbBbCbDbEbFcB0b1b2b3b4b5b6b7b8b9bAbBbCbDbEbFcC0b1b2b3b4b5b6b7b8b9bAbBbCbDbEbF",
  "cD0b1b2b3b4b5b6b7b8b9bAbBbCbDbEbFcE0b1b2b3b4b5b6b7b8b9bAbBbCbDbEbFcF0b1b2b3b4b5b6b7b8b9bAbBbC",
  "bDbEbFdA00b1b2b3b4b5b6b7b8b9bAbBbCbDbEbFc10b1b2b3b4b5b6b7b8b9bAbBbCbDbEbFc20b1b2b3b4b5b6b7b8b9",
  "bAbBbCbDbEbFc30b1b2b3b4b5b6b7b8b9bAbBbCbDbEbFc40b1b2b3b4b5b6b7b8b9bAbBbCbDbEbFc50b1b2b3b4b5b6",
  "b7b8b9bAbBbCbDbEbFc60b1b2b3b4b5b6b7b8b9bAbBbCbDc70b1b2b3b4b5b6b7b8b9bAbBbCbDbEbFc80b1b2b3b4b5",
  "b6b7b8b9bAbBbCbDbEbFc90b1b2b3b4b5b6b7b8b9bAbBbCbDbEbFcA0b1b2b3b4b5b6b7b8b9bAbBbCbDbEbFcB0b1b2",
  "b3b4b5b6b7b8b9bAbBbCbDbEbFcC0b1b2b3b4b5b6b7b8b9bAbBbCbDbEbFcD0b1b2b3b4b5b6b7b8b9",
  "zdRADICAL BAMBOOfLUEdOLT OF CLOTHlNEcXcRUSH ONEdTWOjC-SIMPLIFIED BIRDeCARTeDRAGONgEATcVENeFISH",
  "dLYcROGeGATEdOLDeHORSEfLEAFdONGeSALTdEEcHELLeILKdPEECHgTANNED LEATHERnOOTHeURTLEgWINDqHOKEeITY",
  "cVILIANhLIFFdOTHESgOWdDEATHeIVINATIONjOGdEAT ONEdTHREEeWOgWEcYEdFIREdOOTeGHOSTeRASS ONEdTHREE",
  "eWOjHANDdEADbRT ONEdTWOiORNeJ-SIMPLIFIED DRAGONgEVENeTOOTHeURTLEsADEeKNIFE ONEdTWOjLAME FOUR",
  "eONEdTHREEeWOhONG ONEdTWOiMEATcSHdOONcRTAReTHEReUND ONEdTWOjNET FOUReONEdTHREEeWOhOLDdPAW ONE",
  "dTWOgERSONgRAINcMbPcEPEATgSEALcCOND ONEdTHREEeWOjHEEPeILKcMPLIFIED HALF TREE TRUNKoORNeWALK",
  "dHEATfYELLOWqMALL ONEdTWOiNAKEdOUT ONEdTWOiPIRIT ONEdTWOjUNdTABLEeHREADfIGEReURTLEgWALK ONE",
  "dTWOgTER ONEdTWOiEST ONEdTWOqSTROKE BXGdDbHaGbPaWGdXWGdZaGbTbWaGcZaPbZaGfNbPaDbGbZcQbSaGbPbTbW",
  "aGbZcZaWGcZdTaNcWGcXGmLAMSHELL MOBILE PHONEtPPER BOARDiING HANDS SIGNqSSICAL BUILDING",
  "qEAR SCREEN SYMBOLrINKING BEER MUGSjGLASSESnPBOARDhOCK FACE EIGHT OCLOCKh-THIRTYlLEVEN OCLOCK",
  "h-THIRTYnFIVE OCLOCKh-THIRTYkOUR OCLOCKh-THIRTYlNINE OCLOCKh-THIRTYlONE OCLOCKh-THIRTY",
  "kSEVEN OCLOCKh-THIRTYlIX OCLOCKh-THIRTYkTEN OCLOCKh-THIRTYjHREE OCLOCKh-THIRTYlWELVE OCLOCK",
  "h-THIRTYlO OCLOCKh-THIRTYqWISE CLOSED CIRCLE ARROWsONTOUR INTEGRAL",
  "qDOWNWARDS AND UPWARDS OPEN CIRCLE ARROWSzpGAPPED CIRCLE ARROWtINTEGRALiOPEN CIRCLE ARROW",
  "rRIGHT AND LEFT SEMICIRCLE ARROWSzcWARDS AND LEFTWARDS OPEN CIRCLE ARROWS",
  "a WITH CIRCLED ONE OVERLAYzzsTOP SEMICIRCLE ARROWtRIANGLE-HEADED OPEN CIRCLE ARROWzpSE UP",
  "dD BOOKeINTERSECTION WITH SERIFSyLOCK WITH KEYnMAILBOX WITH LOWERED FLAGmRAISED FLAGySUBSET",
  "a OR EQUAL TOqPERSETa OR EQUAL TOuUMBRELLAhNION WITH SERIFSa AND SMASH PRODUCTzoUD",
  "a WITH LIGHTNINGjRAINeSNOWeTORNADOpWN FACEjOATcCKROACHfTAIL GLASSlONUTfFFINeINcLLISION SYMBOL",
  "nONa EQUALSgSIGNiMBINING ACUTE ACCENTa BELOWmTONE MARKk-GRAVE-ACUTElMACRON",
  "lLMOST EQUAL TO ABOVEfBELOWuNNUITY SYMBOLmTICLOCKWISE ARROW ABOVElRING OVERLAYzSTERISK ABOVE",
  "fBELOWoBINDU BELOWkREVEa BELOWg-MACRONkIDGE ABOVEfBELOWmCANDRABINDUjRONa BELOWkEDILLA",
  "gIRCUMFLEX ACCENTa BELOWwLOCKWISE ARROW ABOVElRING OVERLAYvOMMA ABOVEa RIGHTlBELOW",
  "jNJOINING MACRONa BELOWwYRILLIC DASIA PNEUMATAoHUNDRED MILLIONS SIGNnTHOUSANDS SIGNwKAVYKA",
  "gLETTER AbBEbIG YUShCHEdDEbJERVfEFbLbMbNbRbSa-TEfFITAeGHEdHAaRD SIGNjIaEbOTIFIED AbBIG YUShE",
  "kKAcLITTLE YUSkMONOGRAPH UKmOaMEGAfPEcSHAbCHAeOFT SIGNjTEbSEdUaKRAINIAN IEmVEcYATcERUdIbUcZE",
  "bHEkMILLIONS SIGNnPALATALIZATIONmYEROKgOKRYTIEhSILI PNEUMATAoTEN MILLIONS SIGN",
  "qHOUSAND MILLIONS SIGNvITLOa LEFT HALFjRIGHT HALFqVZMEToDELETION MARKlVANAGARI DIGIT EIGHT",
  "fFIVEdOUReNINEeONEdSEVENeIXdTHREEeWOdZEROkLETTER AbKAcNAcPAcRAcUbVIjSIGN AVAGRAHAxIAERESIS",
  "a BELOWg-RINGnOT ABOVEa LEFTeRIGHTlBELOWa LEFTlTED ACUTE ACCENTmGRAVE ACCENTrUBLE ACUTE ACCENT",
  "mBREVEa BELOWlCIRCUMFLEX ABOVEqGRAVE ACCENTmINVERTED BREVEa BELOWuLOW LINEiMACRONa BELOW",
  "mOPEN MARK BELOWoVERLINEiPARENTHESES ABOVEqLUS SIGN ABOVEfBELOWpRIGHTWARDS ARROW BELOW",
  "uNG BELOWkTILDEa LEFT HALFjRIGHT HALFqVERTICAL LINE ABOVEfBELOWkSTROKE OVERLAY",
  "yD CIRCUMFLEX ACCENTxWN TACK BELOWlWARDS ARROWpENCLOSING CIRCLEa BACKSLASHqDIAMONDhKEYCAP",
  "gSCREENfQUAREgUPWARD POINTING TRIANGLEziQUALS SIGN BELOWrFERMATAgOUR DOTS ABOVE",
  "pGLAGOLITIC LETTER AZUdBIG YUSgUKYeCHRIVIgDJERVIfOBROfFITAdRITUfGLAGOLIhHERUeIaNITIAL IZHE",
  "lOTATED BIG YUShSMALL YUSqZHEeKAKOeLJUDIJEhMYSLITEhNASHIfONUdPOKOJIgRITSIfSHAbTAdLOVOeMALL YUS",
  "jTSIcVRIDOgUKUdVEDEeYATIdERIbUcSTUeObUcZEMLJAfHIVETEyRANTHA DIGIT FIVEdOUReONEdSIXdTHREEeWO",
  "dZEROkLETTER AbKAcNAcPAcVIoPHEME JOINERmVE ACCENTa BELOWmTONE MARKk-ACUTE-GRAVElMACRON",
  "kEEK DIALYTIKA TONOSpKORONIShMUSICAL PENTASEMEjTETRASEMEiRISEMEpPERISPOMENIlYPOGEGRAMMENI",
  "tHOMOTHETIC ABOVEoOK ABOVEiRNeINFINITYgVERTED BREVEa BELOWjIDGE BELOWmDOUBLE ARCH ABOVEfBELOW",
  "zS BELOWiKATAKANA-HIRAGANA SEMI-VOICED SOUND MARKwVOICED SOUND MARKziVYKA ABOVE LEFTeRIGHT",
  "sLATIN LETTER SMALL CAPITAL GbLbMbNbRwSMALL LETTER Aa WITH DIAERESISpEbLPHAeObVcBaETAeC",
  "a CEDILLAjDbEaSHcTHdFaLATTENED OPEN A ABOVEwGbHbIaNSULAR DbGbRbTjKbLa WITH DOUBLE MIDDLE TILDE",
  "zONG SgMbNbOa WITH DIAERESISjLIGHT CENTRALIZATION STROKEzjPbRa BELOWfROTUNDAjSaCHWAfT",
  "aURNED W BELOWoUa WITH DIAERESISjLIGHT CENTRALIZATION STROKEzjVbWa BELOWhXbZtEFT ANGLE ABOVE",
  "fBELOWkRROW ABOVEfBELOWgHEAD ABOVEfBELOWpHALF RING ABOVEfBELOWnRPOON ABOVE",
  "nPARENTHESIS ABOVE LEFTkBELOW LEFTwRIGHT ARROW ABOVEfBELOWrTACK BELOWlWARDS ARROW OVERLAY",
  "nHARPOON WITH BARB DOWNWARDSzlIGATURE LEFT HALFa BELOWpRIGHT HALFa BELOW",
  "wHT CENTRALIZATION STROKE BELOWzhONG DOUBLE SOLIDUS OVERLAYwSOLIDUS OVERLAYoTROKE OVERLAY",
  "oVERTICAL LINE OVERLAYyW LINEiMACRONa BELOWfLEFT HALFa BELOWpRIGHT HALFa BELOWr-ACUTEfBREVE",
  "fGRAVElINUS SIGN BELOWqNOT TILDE ABOVEoUMBER SIGN ABOVErOGONEKa ABOVElLD PERMIC LETTER ANcDOI",
  "dNENOEfSIIdZATAvPEN MARK BELOWoVERLINEiPALATALIZED HOOK BELOWuRENTHESES ABOVEfBELOWfOVERLAY",
  "sLUS SIGN ABOVEfBELOWpRETROFLEX HOOK BELOWsVERSE SOLIDUS OVERLAYqD COMMA ABOVE",
  "tIGHT ARROW ABOVEfBELOWgHEAD ABOVEeND DOWN ARROWHEAD BELOWuUP ARROWHEAD BELOWwBELOW",
  "pHALF RING ABOVEfBELOWnRPOON ABOVEnPARENTHESIS ABOVE RIGHTlBELOW RIGHTxTACK BELOW",
  "lWARDS HARPOON WITH BARB DOWNWARDSzlNG ABOVEfBELOWfOVERLAYmSEAGULL BELOWmHORT SOLIDUS OVERLAY",
  "oTROKE OVERLAYoVERTICAL LINE OVERLAYzbNAKE BELOWkQUARE BELOWeRACKETS ABOVE",
  "uTRONG CENTRALIZATION STROKE BELOWziUSPENSION MARKpTHREE DOTS ABOVEpILDEa BELOW",
  "fLEFT HALF BELOWpOVERLAYhRIGHT HALF BELOWvRIPLE ACUTE ACCENTmDOTdUNDERDOToURNED COMMA ABOVE",
  "sUP TACK ABOVEfBELOWlWARDS ARROW BELOWsR ABOVEhS ABOVEiVERTICAL LINE ABOVEfBELOWkTILDE",
  "oWIDE BRIDGE ABOVEmINVERTED BRIDGE BELOWyGGLY LINE BELOWrX ABOVEfBELOWg-X BELOWjZIGZAG ABOVE",
  "fBELOWtETcMAbERCIAL ATcMINUS SIGNsPASSdLEMENTgOSITION SYMBOLoRESSIONjNFETTI BALLjOUNDED FACE",
  "lUSED FACEkGRUENT WITH DOT ABOVEvICAL TAPERkJUNCTIONiSTRUCTION SIGNeWORKERqTAINS AS MEMBER",
  "gNORMAL SUBGROUPa OR EQUAL TOzfWITH LONG HORIZONTAL STROKEwOVERBAR",
  "hVERTICAL BAR AT END OF HORIZONTAL STROKEzzINUOUS UNDERLINE SYMBOLxOUR INTEGRALmROL KNOBS",
  "fSEQUENCE INTRODUCERyVENIENCE STOREpOKED RICEhIEbNGfPTIC CAPITAL LETTER AKHMIMIC KHEImLFA",
  "eBOHAIRIC KHEInCROSSED SHEIkYPTOGRAMMIC EIEdGANGIAgNIcSHEIsDALDAeEIcIALECT-P ALEFeHORIeKAPAeNI",
  "mEIEdFEIcIcGAMMAdNGIAgHATEdORIeIAUDAfKAPAdHEIcIcSIdL-SHAPED HAkAULAfMIcNIcOaLD COPTIC AINdDJA",
  "dESHdGANGIAgHAaTcEIcORIeOOUdSHEIcIMAmNUBIAN NGIcYIdSHIMAfWAUnOUdPIbSIdROcSAMPIeHEIcIMAeIMAdOU",
  "dTAUcHETHEgUAcVIDAeZATAsOMBINING NI ABOVEiSPIRITUS ASPERfLENISyEPACT DIGIT EIGHTfFIVEdOUReNINE",
  "eONEdSEVENeIXdTHREEeWOjNUMBER EIGHT HUNDREDiYgFIFTYdVE HUNDREDlORTYdUR HUNDREDmNINE HUNDREDiTY",
  "gONE HUNDREDlSEVEN HUNDREDiTYgIX HUNDREDiTYfTENcHIRTYeREE HUNDREDmWENTYeO HUNDRED",
  "sTHOUSANDS MARKuFRACTION ONE HALFqULL STOPjMORPHOLOGICAL DIVIDER",
  "vOLD NUBIAN DIRECT QUESTION MARKuFULL STOPjINDIRECT QUESTION MARKwVERSE DIVIDER",
  "ySMALL LETTER AKHMIMIC KHEImLFAeBOHAIRIC KHEInCROSSED SHEIkYPTOGRAMMIC EIEdGANGIAgNIcSHEI",
  "sDALDAeEIcIALECT-P ALEFeHORIeKAPAeNImEIEdFEIcIcGAMMAdNGIAgHATEdORIeIAUDAfKAPAdHEIcIcSI",
  "dL-SHAPED HAkAULAfMIcNIcOaLD COPTIC AINdDJAdESHdGANGIAgHAaTcEIcORIeOOUdSHEIcIMAmNUBIAN NGIcYI",
  "dSHIMAfWAUnOUdPIbSIdROcSAMPIeHEIcIMAeIMAdOUdTAUcHETHEgUAcVIDAeZATAqYMBOL KAIcHI ROgMI ROfPI RO",
  "fSHIMA SIMAjTAUROShTAU ROrYLEFT SYMBOLlRIGHT SIGNmRALcNISH VERSE DIVIDERsRESPONDS TO",
  "mUCH AND LAMPlNTERBOREeSINKgING ROD TENS DIGIT EIGHTfFIVEdOUReNINEeONEdSEVENeIXdTHREEeWO",
  "oUNIT DIGIT EIGHTfFIVEdOUReNINEeONEdSEVENeIXdTHREEeWOyPLE WITH HEARTpWa FACEhRaABcEDIT CARD",
  "iSCENT MOONlICKETa BAT AND BALLsOCODILEgISSANTgSS MARKeOF JERUSALEMjLORRAINE",
  "lPATTY WITH LEFT CROSSBARnRIGHT CROSSBARyOMMEEa WITH HALF-CIRCLE BELOWzfED FLAGS",
  "fNEGATIVE SQUARED LATIN CAPITAL LETTER PzoSWORDSjING LANESlWNdUTCHdZEIRO SIGNlYING CAT FACE",
  "iFACEiSTAL BALLlSIcUBE ROOThCUMBERgNEIFORM NUMERIC SIGN EIGHT ASHdDISHeGESH2fSHAR2fU",
  "a VARIANT FORMoVARIANT FORM USSUa3xLAMITE FIFTYeORTYfONE THIRDjTWO THIRDSsFIVE ASHa TENUiBAN2",
  "a VARIANT FORMqURUeDISHeGESH2bUfSHAR2bUeIXTHS DISHlUa VARIANT FORMsOUR ASHa TENUiBAN2",
  "a VARIANT FORMqURUeDISHeGESH2bUfSHAR2bUfUa VARIANT FORMoVARIANT FORM LIMMUa AbBc4yNIGIDAESH",
  "dMINhNE ASHdDISHeGESH2fSHAR2fUa VARIANT FORMoVARIANT FORM ILIMMUa Ac3b4",
  "zOLD ASSYRIAN ONE QUARTERhSIXTHvNE BAN2dURUeEIGHTH ASHjSHE3fGESH2bUfHALF GURiQUARTER ASHdGUR",
  "lSHARUfTHIRD DISHeVARIANT FORM AySEVEN ASHdDISHeGESH2fSHAR2fUa VARIANT FORM",
  "oVARIANT FORM IMIN AbBc3xHAR2 TIMES GAL PLUS DISHeMINxIX ASHa TENUiDISHeGESH2fSHAR2fU",
  "a VARIANT FORMoVARIANT FORM ASH9vTHREE ASHa TENUiBAN2dURUa VARIANT FORMrDISHeGESH2bUfSHAR2",
  "a VARIANT FORMoUa VARIANT FORMsVARIANT FORM ESH16c21xWO ASHa TENUiBAN2dURUeESHE3fGESH2bUfSHAR2",
  "bUfTHIRDS DISHeVARIANT FORM AznPUNCTUATION SIGN DIAGONAL COLONfQUADCOLONjTRICOLON",
  "rOLD ASSYRIAN WORD DIVIDERzVERTICAL COLONzgSIGN Aa TIMES AbBADdGAN2 TENUjHAcIGIdLAGAR GUNU",
  "kMUSHeSAGk2bBa GUNUeTIMES ASH2eDUN3 GUNUjGALbN2 TENUjHAcIGI GUNUhMINeLAGABfNUNa TENUiSHESHdU2",
  "eU PLUS U PLUS Uw2a TIMES AbBALAGfGAN2 TENUjME PLUS ENkSHA3eTAK4nDa TIMES ESH2mKa TIMES ERIN2",
  "fSHITA PLUS GISHxLa TIMES ALcDIM2eGISHeHAcKAD3dIcSHEdUSHkANcEPHeMARa TIMES KUGdSHEnNa OVER AN",
  "hPLUS NAGA OPPOSING AN PLUS NAGAvSQUAREDrTHREE TIMESmSHEePINdRADa TIMES KURmKABeSAL2dH",
  "a KABA TENUjOVER ASH OVER ASHa CROSSING ASH OVER ASH OVER ASH",
  "zoTUG2 OVER TUG2 TUG2 OVER TUG2 PAPzrZIDA TENUk2bGABgBAaDa TIMES DISH TENUrG3cHAR2a TIMES AB2",
  "dNIcZAnLa OVER BALjAGdRaA2eIa TIMES AbGARdIGI GUNUqUa CROSSING BUlOVER BU ABcTIMES NA2jUNlLUG",
  "a OVER BULUGoRa2eDAa TIMES TAK4lGa KISIM5 TIMES A PLUS MASHkMAReBALAGeIcGAa PLUS MASHlIaR2dUD",
  "dHAcIRa PLUS LUkKAKdLAbUa PLUS MASH2lMdNEcPAP PLUS PAPmSIcTAK4eU2 PLUS GIR2eMASHlSHqTIMES KUR",
  "k3cMbRaA3b4eIaBbMa TIMES IGIdSHEdU U Um2a TIMES UDlNa KASKAL U GUNU DISHuSHa PLUS SHUmUa GUNU",
  "eOVER DUhSHESHIGiBa TIMES ESH2eSHEk2cGa TIMES ANSHEeSHa AT LEFTlDINcUNdERIN2fGAbIaR2 GUNUhSH",
  "eHAbIcIGI GUNUiKASKALfURbSHU2a PLUS KASKALsLAK-020fMa TIMES KURmUH PLUS GISHnMASHdEScIcNIcPI",
  "cSHEcI GUNUoUDdHbNa3a GUNUa GUNUl4cR2eEa OVER E NUN OVER NUNtTIMES PAPk2",
  "a TIMES A PLUS HA PLUS DArGARdKURdMIcPAPdSALcHEdUjDINdGIRdLbNa CROSSING ENlOPPOSING ENlSQUARED",
  "hTIMES GAN2a TENUjMEkRENcIN2a XgSH2a CROSSING ESH2rZENa SHESHIG TIMES ASHdHIcIGI GUNUiLAaLdME",
  "aSdSUqTIMES Aa PLUS LALa TIMES LALtNcBADdDUN3 GUNUa GUNUoGUDdHAa GUNUhIGI GUNUiKASKALa SQUARED",
  "nU3dLAaL TIMES LALmIbUcSHEcUcU2bDnGAa GUNUf2a OVER GA2iTIMES A PLUS DA PLUS HAkHAcIGI",
  "jB2 TENU PLUS TABqNa PLUS KAK PLUS ArSHa2a PLUS GALnBADbHAR2eR PLUS RAkURa PLUS RAlDAbIaM GUNU",
  "eTIMES SHEmUBbG TIMES IGI GUNUiKASKALqELa PLUS LAjNa TIMES GAN2 TENUrRENeGAaN2 TENUhRa PLUS DI",
  "cNEkIa4a PLUS AiR2 PLUS SUmHA PLUS AbLU PLUS ESH2sLa PLUS LAkI PLUS LIjUB2eIGI GUNU",
  "hSH PLUS HU PLUS ASHuKAKbSKALfIDa PLUS LALlU3 PLUS ANjSHU2 PLUS KASKALsLAaMa TIMES KURmUH",
  "dME PLUS ENjIbUSHeNEa PLUS E2cGIjUNa OVER NUNmPAcSALbRcHEa PLUS TURkIDbMdUMdTAK4eUaDa PLUS DU",
  "kZIZ2mBAa CROSSING GABAnROTATED NINETY DEGREESzDa OVER GAD GAR OVER GARxL",
  "a GAD OVER GAD GAR OVER GARzbAMdMbNa2a CROSSING GAN2nOVER GAN2jTENUhRa3cSHANfE22cSHTIN",
  "a TIMES KURdUoIa CROSSING GIlTIMES EbUi4a CROSSING GI4mOVER GI4kDIMdGbR2a GUNUg3",
  "a TIMES A PLUS IGIkGAN2 TENUjIGIdLU PLUS IGIlPAlSALcHa CROSSING GISHnTENUdIMES BAD",
  "dGISH CROSSING GISHsTAK4oUa CROSSING GUm2a GUNUeTIMES IGI GUNUiKAKa TIMES IGI GUNUsNUN",
  "dSAL PLUS TUG2vDa OVER GUD LUGALoPLUS GISH TIMES TAK4uTIMES A PLUS KURkKURlLbMa TIMES SHElRa7",
  "bUNbSHgHAa GUNUeTENUa GUNUkLcIa TIMES ASHa OVER HI TIMES ASHs2eBADdDISHeGADdKINdNUNdSHEdUjUaB2",
  "a TIMES ANcHALdKASKALgLISHeUDlL2cSHeIa AcBbDIMa OVER IDIM BURdSQUAREDvGaIa DIBdGUNU",
  "eOVER IGI SHIR OVER SHIR UD OVER UDzjRIfLa TIMES GAN2 TENUq2cMa CROSSING IMlOPPOSING IM",
  "lSQUAREDhTIMES TAK4lINdNbRbSHdKAa TIMES AaDa PLUS KU3kNSHEeSH2b3eBADbLAGdRcIbUcERIN2eSH2eGAaL",
  "bN2 TENUhRa PLUS SHA3 PLUS AtIaR2cSHa CROSSING GISHnPLUS SARmUaDbR7eHI TIMES ASH2nIGIcMcKAaKcI",
  "aDdLIbUaMdMEa PLUS DUcGIcTEjIa PLUS NUNUZnNEbUNdPAbIcRUcSAaRcHAbEbIDcUaLdIGcUHURfTARcUcUa U U",
  "e2bDbMUM TIMES PAmRa2cSHdZIj2a CROSSING KA2oBbD2b3b4b5a OVER KAD5mKa TIMES IGI GUNUqL",
  "a CROSSING KALmTIMES BADlM2b4cP ELAMITEjSKALa LAGAB TIMES U OVER LAGAB TIMES U",
  "zhOVER KASKAL LAGAB TIMES U OVER LAGAB TIMES UzzESH2eIa TIMES BADdUaDjDbNbSALcHbIM5",
  "a OVER KISIM5rUa OVER HI TIMES ASH2 KU OVER HI TIMES ASH2zq3b4a VARIANT FORMo7bLa GUNUgNbR",
  "a OPPOSING KURoSHU2fWU318gLAaGABa SQUAREDhTIMES Aa PLUS DA PLUS HAkGARdLALjLbNbSH ZIDA TENU",
  "nBADcIcDARdENcGAaRcIbUDa PLUS GUDmHAaLcI TIMES NUNmIGI GUNUhMa PLUS HAcLUkKIaNcU3bL",
  "a PLUS HI PLUS AsLAGABeISHdUaLdMEa PLUS ENjUSHeNEcSHE PLUS SUMkITA PLUS GISH PLUS ERIN2kTENU",
  "sU2a PLUS SHU2nUMdTAGbK4dE PLUS A PLUS SU PLUS NAzUa PLUS AbU PLUS Uo2 PLUS ASHkDbSH",
  "dZU OVER ZUsRa GUNUa OVER LAGAR GUNU SHEyTIMES SHEa PLUS SUMwHSHUeK-003c21b5c30c50b1c62",
  "c79 OVER LAK-079 GUNUu80b1 OVER LAK-081p92d130c42d210b9c20b5b8c38c65b6d343b7b8c83b4c90d441b9",
  "a TIMES GUcIGIdPAP PLUS LU3dPAP PLUS LU3vU2 PLUS BAt50b7c70c83c90b2b3b5d550d608c17a TIMES ASH",
  "dBADdDUN3 GUNU GUNUoKU3dLAcTARcEcU2bDbRUDAo36c48a TIMES DUBdGAcIGIa GUNUiNI",
  "cPAP PLUS PAP PLUS LU3vSHESH PLUS KInUDbRUDAp724c49fLa TIMES LALlMa TIMES KURa PLUS RUuIaL",
  "bMMU2eSHdUa TIMES BADk2a CROSSING LU2mGUNU TIMES ASHoOPPOSING LU2mSHESHIGa TIMES BADqQUARED",
  "hTENUdIMES ALcBADdDISHeESH2a PLUS LALiTENUjGAN2 TENUjHALcI TIMES BADmIMcKAD2b3a PLUS ASHmI",
  "cLA PLUS ASHjGABfME PLUS ENkNEbUcPAPa PLUS PAP PLUS LU3vSHUcI PLUS ASHjK2 PLUS BUmTAK4dUG2m3",
  "bGALa OPPOSING LUGALnVER LUGALkSHESHIGlHbLbMa OVER LUMa GAR OVER GARzMAa GUNUeTIMES TAK4l2bHbR",
  "bSHa2eEaSaHdIa PLUS ZA7jNcUa OVER MUiGa GUNUgNSUBeRGU2eSHa CROSSING MUSHnOVER MUSH",
  "a TIMES A PLUS NAjGAcKAKtTIMES AbKURdZAj3a GUNUeTIMES Aa PLUS DIjDIcZAoNAa2b4bGAa INVERTED",
  "iOPPOSING NAGAnTIMES SHU TENUpRdMa NUTILLUi2dEa SHESHIGhTIMES AbUDkIa TIMES Ei2bM",
  "a TIMES GAN2 TENUhR PLUS GAN2 TENUzbNa9bDA2a TIMES ANbSHa PLUS ASHmBALdDIM GUNUiGIaSHdUDbLdHI",
  "cKESH2fLAK-050hMASHdE PLUS GAN2 TENUrNEbUNdPAP PLUS PAPmSHEa PLUS A ANdSHa PLUS ASHvUa PLUS U",
  "h2 PLUS ASHkRUDAeSHoSAGeUa11a OVER NU11 BUR OVER BURwROTATED NINETY DEGREESwTENUhN",
  "a CROSSING NUNa LAGAR OVER LAGARzeLAGAR TIMES GARdMASHeSALa OVER NUN LAGAR TIMES SALzdUSH",
  "pOVER NUNiTENUfUZa AB2 TIMES ASHGABgBIcDUGdGUDdIGI GUNUiKAD3eLAcNEcSILA3fU2mKISIM5 TIMES BIa U",
  "xPAaDbNbPcESH2a ASTERISKnIa CROSSING PIlTIMES AaBcBIbUcEbIaBcUa2jR2bIGa OPPOSING PIRIG",
  "oTIMES KALdUDcZAoRAaBcIbUcSAaGa GUNUa TIMES HAnNUTILLUhOVER SAGiTIMES AbDUaBdENcHAcIGI GUNU",
  "iKAKcURdLUMdMIcNUNdSALcHE AT LEFTjIDeTABbK4eU2bBbMbRbSHlLa LAGAB TIMES ASH2sNGA2eRcHAa3",
  "a TIMES AbBADdGISHeNEcSHU2eTURdUa PLUS Aq6a TENUgB6cR2dEa HUcOVER SHE",
  "a GAD OVER GAD GAR OVER GARzTAB OVER TAB GAR OVER GARzjPLUS HUB2eNAM2eSARjG9cNbSHa2bLAMgID",
  "a TIMES AbIMkMa TIMES AbBALcULUGfDINdGARdIGIa GUNUiKUSHU2gLULdMUGdSALlNIGdR",
  "a OVER SHIR BUR OVER BURwTENUgTAdUa OVER INVERTED SHUs2a PLUS DUG TIMES NImE2 TIMES ANsBURfI",
  "a GUNUeTIMES TAK4lGa4a OVER SIG4 SHU2rK2cLA3eUa OVER SUiDa2cHURdMaASHeRa9eTAa ASTERISKiGUNU",
  "eTIMES HIcMIjBa OVER TAB NI OVER NI DISH OVER DISHzjSQUAREDjGa TIMES BIcGUDdSHEbUdTUG2eUDkK4",
  "a PLUS SAGlRcEa GUNUgIa TENUf2bLbRa OVER TIRa GAD OVER GAD GAR OVER GARzjTIMES TAK4nUaG2cKbM",
  "a TIMES GAN2 TENUjTHREE DISHsRa OVER TUR ZA OVER ZAxUa GUDdOVER U PA OVER PA GAR OVER GAR",
  "xSUR OVER SURmU REVERSED OVER U REVERSEDziUa Ue2bBbDa GUNUeKUSHU2gSHESHIGa TIMES BADrTIMES BAD",
  "dMIcU PLUS U PLUS Ua GUNUzcUGdMa TIMES LAGABfMEa PLUS DAkSHA3eUiBINdUMa TIMES KASKALgPAmN",
  "a GUNUgRa CROSSING URlSHESHIGi2a INVERTEDiTIMES A PLUS HAcNAiLcHAcNUNdU2a PLUS ASHdBIjDk4bIa3",
  "cUa TIMES AaSHGABgBARdDARA3eUNdGAaLbN2 TENUhRcUcHAcIGIcMbSHdKIcLAK-668gU3bMdMINdPAcSHEcIG4eTU",
  "cU PLUS GUDjDbRUDAmDAa TIMES UmSHa TIMES AbKUaRdTAK4l2bUMXdXdTUKIeZ3a TIMES KASKALoUdZA",
  "a SQUARED TIMES KURrTENUf7bGbMXdE2cIa OVER ZIi3bBa KABA TENUlGbZ2dUa OVER ZU PLUS SARr5",
  "a TIMES AbTHREE DISH TENUxBURdMqP ON BLACK SQUAREpWITH STRAWlCAKEeIDOeRLING STONE",
  "jY BRACKET EXTENSIONrLOGICAL ANDdORiOPhRENCY EXCHANGEiSIGNjY AND RICE",
  "lVED STEM PARAGRAPH SIGN ORNAMENTziSTARDdOMSfT OF MEATkYCLONEfLINDRICITYkPRIOT SYLLABLE AbEbI",
  "bJAbOcKAbEbIbObUcLAbEbIbObUcMAbEbIbObUcNAbEbIbObUcObPAbEbIbObUcRAbEbIbObUcSAbEbIbObUcTAbEbIbO",
  "bUcUbWAbEbIbOcXAbEcZAbOpO-MINOAN SIGN CM001b2b4b5b6b7b8b9c10b1b2aBc3b5b7b9c21b3b4b5b6b7b8b9c30",
  "b3b4b5b6b7b8b9c40b1b4b6b7b9c50b1b2b3b4b5b6b8b9c60b1b2b3b4b6b7b8b9c70b1b2b3b4b5aBc6b8b9c80b1b2",
  "b3b4b5b6b7b8b9c90b1b2b4b5b6b7b8b9d100b1b2b3b4b5b7b8b9c10b2b4d301b2vRILLIC CAPITAL LETTER A",
  "a WITH BREVEfDIAERESISpBKHASIAN CHEa WITH DESCENDERsDZEdHAlLEUT KAiBARRED Oa WITH DIAERESIS",
  "vSHKIR KAjEbIG YUSfNOCULAR OkLENDED YUSkROAD OMEGAkYELORUSSIAN-UKRAINIAN IyCCHEdHE",
  "a WITH DESCENDERiIAERESISjVERTICAL STROKExLOSED LITTLE YUSqROSSED OjDCHEdEbJEaRV",
  "eOUBLE MONOCULAR OlOhWEcZEaLOdHEcWEcZEbHEfEa WITH DIAERESISpFbLa WITH DESCENDERjHOOK",
  "eMIDDLE HOOKlTAILlMa WITH TAILlNa WITH DESCENDERjHOOKeLEFT HOOKjMIDDLE HOOKlTAILlRa WITH TICK",
  "lSa WITH DESCENDERrFITAeGHEa WITH DESCENDERjMIDDLE HOOKlSTROKEa AND HOOKpUPTURNoJEdHA",
  "a WITH DESCENDERjHOOKeSTROKEmRD SIGNiWEdIa WITH DIAERESISjGRAVEfMACRONmEa WITH BREVEfGRAVEmO",
  "aTAbIFIED AbBIG YUShCLOSED LITTLE YUSrEbLITTLE YUSkYATlZHITSAa WITH DOUBLE GRAVE ACCENTzhJEcKA",
  "a WITH DESCENDERjHOOKeSTROKEgVERTICAL STROKEwHAKASSIAN CHEnJEcOMI DEbJEcZJEeLJEdNJEdSJEdTJE",
  "dZJEgPPAeSIdLHAcITTLE YUSjJEdMONOCULAR OhGRAPH UKmNEUTRAL YERkJEdOa WITH DIAERESISpMEGA",
  "a WITH TITLOpTcPEa WITH DESCENDERjMIDDLE HOOKsSIdQAcREVERSED DZEdTSEdYUcZEkHAcOUND OMEGAlSCHWA",
  "a WITH DIAERESIStEMISOFT SIGNmHAbCHAdHAa WITH DESCENDERrORT Ia WITH TAILlUfWEdOFT DEcELbMcSIGN",
  "iTRAIGHT Ua WITH STROKEwTCHEdEa WITH DESCENDERjMIDDLE HOOKsSEbHEcSEcWEdWEdUa WITH DIAERESIS",
  "iOUBLE ACUTEmMACRONmKaRAINIAN IEmVEcWEcYAaEbTcERUa WITH BACK YERiDIAERESISsIbNbUcZE",
  "a WITH DESCENDERiIAERESISpMLYAfHEa WITH BREVEfDESCENDERiIAERESISqWEkIGATURE A IEeEN GHEgTE TSE",
  "xKAVYKAgLETTER MULTIOCULAR OnPALOCHKAiSMALL CAPITAL ELxPAYEROKhSMALL LETTER Aa WITH BREVE",
  "fDIAERESISpBKHASIAN CHEa WITH DESCENDERsDZEdHAlLEUT KAiBARRED Oa WITH DIAERESISvSHKIR KAjE",
  "bIG YUSfNOCULAR OkLENDED YUSkROAD OMEGAkYELORUSSIAN-UKRAINIAN IyCCHEdHEa WITH DESCENDER",
  "iIAERESISjVERTICAL STROKExLOSED LITTLE YUSqROSSED OjDCHEdEbJEaRVeOUBLE MONOCULAR OlOhWEcZEaLO",
  "dHEcWEcZEbHEfEa WITH DIAERESISpFbLa WITH DESCENDERjHOOKeMIDDLE HOOKlTAILlMa WITH TAILlN",
  "a WITH DESCENDERjHOOKeLEFT HOOKjMIDDLE HOOKlTAILlRa WITH TICKlSa WITH DESCENDERrFITAeGHE",
  "a WITH DESCENDERjMIDDLE HOOKlSTROKEa AND HOOKpUPTURNoJEdHAa WITH DESCENDERjHOOKeSTROKEmRD SIGN",
  "iWEdIa WITH DIAERESISjGRAVEfMACRONmEa WITH BREVEfGRAVEmOaTAbIFIED AbBIG YUShCLOSED LITTLE YUS",
  "rEbLITTLE YUSkYATlZHITSAa WITH DOUBLE GRAVE ACCENTzhJEcKAa WITH DESCENDERjHOOKeSTROKE",
  "gVERTICAL STROKEwHAKASSIAN CHEnJEcOMI DEbJEcZJEeLJEdNJEdSJEdTJEdZJEgPPAeSIdLHAcITTLE YUSjJE",
  "cONG-LEGGED DEoMONOCULAR OhGRAPH UKmNARROW OhEUTRAL YERkJEdOa WITH DIAERESISpMEGAa WITH TITLO",
  "pTcPALOCHKAhEa WITH DESCENDERjMIDDLE HOOKsSIdQAcREVERSED DZEdTSEdYUcZEkHAcOUND OMEGAgED VE",
  "kSCHWAa WITH DIAERESIStEMISOFT SIGNmHAbCHAdHAa WITH DESCENDERrORT Ia WITH TAILlUfWEdOFT DEcEL",
  "bMcSIGNiTRAIGHT Ua WITH STROKEwTALL HARD SIGNjTEcYAThCHEdEa WITH DESCENDERjMIDDLE HOOK",
  "sHREE-LEGGED TEoSEbHEcSEcWEdWEdUa WITH DIAERESISiOUBLE ACUTEmMACRONmKaRAINIAN IElNBLENDED UK",
  "mVEcWEbIDE EShYAaEbTcERUa WITH BACK YERiDIAERESISsIbNbUcZEa WITH DESCENDERiIAERESISpMLYAfHE",
  "a WITH BREVEfDESCENDERiIAERESISqWEkIGATURE A IEeEN GHEgTE TSEvTHOUSANDS SIGNxDAGGERa KNIFE",
  "fWITH LEFT GUARDkRIGHT GUARDvLET SYMBOLkNCERdGOdRK SHADEeUNGLASSESnSH SYMBOLgWITH LEFT UPTURN",
  "rED LOW LINEiOVERLINEiTRIANGLE-HEADED RIGHTWARDS ARROWzmTA LINK ESCAPEpC1b2b3b4bScEAF PERSON",
  "jCIDUOUS TREEkMAL EXPONENT SYMBOLpSEPARATOR KEY SYMBOLzREASE FONT SIZE SYMBOLxERcGREE CELSIUS",
  "hFAHRENHEITkSIGNjLaETEdIVERY TRUCKlTA EQUAL TOmNTISTRY SYMBOL LIGHT DOWN AND HORIZONTAL",
  "a WITH CIRCLEgTRIANGLEiWAVEzeUP AND HORIZONTALa WITH CIRCLEgTRIANGLEiWAVE",
  "zcVERTICAL AND BOTTOM LEFTeRIGHTmTOP LEFTeRIGHTjWAVEiWITH CIRCLEgTRIANGLEzsPARTMENT STORE",
  "oRELICT HOUSE BUILDINGvSCENDING NODEmERET CAPITAL LETTER AYcBEEdCHEEeDEEdEFbLbMbNaGcRbSaHcTHcW",
  "cGAYdHbJEEdKAYdLONG AaHcEbIbOaOhOIbWcPEEdSHORT AaHcEbIbOaOiTEEcHEEeVEEdWUcYEEdZEEcHEE",
  "tSMALL LETTER AYcBEEdCHEEeDEEdEFbLbMbNaGcRbSaHcTHcWcGAYdHbJEEdKAYdLONG AaHcEbIbOaOhOIbWcPEE",
  "dSHORT AaHcEbIbOaOiTEEcHEEeVEEdWUcYEEdZEEcHEEuTa ISLANDkKTOP COMPUTERiWINDOW",
  "mVANAGARI ABBREVIATION SIGNqCUTE ACCENTmCARETfDANDAeIGIT EIGHTfFIVEdOUReNINEeONEdSEVENeIX",
  "dTHREEeWOdZEROjOUBLE DANDAmGAP FILLERjRAVE ACCENTmHEADSTROKEkJAIN OMhLETTER AaAbIbUbWbYcBAbBA",
  "cHAdCAaNDRA AbEbOhHAdDAbDAbDAbHAdHAdHAdEbFAcGAbGAcHAbHAdLOTTAL STOPmHAbEAVY YAiIaIcJAbHAcJAdKA",
  "bHAbHAeLAbLAbLAeMAaRWARI DDAlNAbGAcNAbNAdYAdOaEbOEdPAbHAdQAcRAbHAcRAdSAbHAbORT AbEbOgSAdTAbHA",
  "cTAbHAeUaEbUaEdVAbOCALIC LaLcRaRkYAbYAdZAbHAkOMcSIGN ANUSVARAhVAGRAHAiCANDRABINDUa AVAGRAHA",
  "iTHREEeWOdVIRAMAsDOUBLE CANDRABINDU VIRAMAzHIGH SPACING DOTqINVERTED CANDRABINDUuNUKTA",
  "fPUSHPIKAiSIDDHAMgPACING CANDRABINDUtVIRAMAeSARGAlTRESS SIGN ANUDATTAiUDATTAsVOWEL SIGN AAbIbU",
  "bWbYcCANDRA EbLONG EgOiEbIaIcOaEbOEdPRISHTHAMATRA EpSHORT EbOhUaEbUaEdVOCALIC LaLcRaR",
  "zeICE CONTROL FOUReONEdSTRINGgTHREEeWOrIAERESISgMETER SIGNjOND OPERATOR",
  "iSHAPE WITH A DOT INSIDExTARGETgWITH BOTTOM HALF BLACKrLEFT HALF BLACKpRIGHT HALF BLACK",
  "qTOP HALF BLACKzE FACE-1b2b3b4b5b6hSEL LOCOMOTIVEpFFERENCE BETWEENqGIT EIGHTa COMMAfFULL STOP",
  "pFIVEa COMMAfFULL STOPnOURa COMMAfFULL STOPoNINEa COMMAfFULL STOPoONEa COMMAfFULL STOPnSEVEN",
  "a COMMAfFULL STOPoIXa COMMAfFULL STOPnTHREEa COMMAfFULL STOPoWOa COMMAfFULL STOPnZEROa COMMA",
  "fFULL STOPrRAM FOR EARTHaLY HEAVENfUMANnGREATER YANGdINlHEAVENLY EARTHnUMAN EARTHlLESSER YANG",
  "dINtMENSION ORIGINoNGBAT CIRCLED SANS-SERIF DIGIT EIGHTfFIVEdOUReNINEeONEdSEVENeIXdTHREEeWO",
  "dZEROkNUMBER TENzeNEGATIVE CIRCLED DIGIT EIGHTfFIVEdOUReNINEeONEdSEVENeIXdTHREEeWOjNUMBER TEN",
  "kSANS-SERIF DIGIT EIGHTfFIVEdOUReNINEeONEdSEVENeIXdTHREEeWOdZEROkNUMBER TEN",
  "ztRECT CURRENT SYMBOL FORM TWOxHITiSABLED CARiPPOINTED BUT RELIEVED FACErFACE",
  "oCONTINUOUS UNDERLINE SYMBOLzcGUISED FACEmTTO MARKiVES AKURU DIGIT EIGHTfFIVEdOUReNINEeONE",
  "dSEVENeIXdTHREEeWOdZEROjOUBLE DANDAmEND OF TEXT MARKqGAP FILLERkINITIAL RAkLETTER AaAcBAbHAdCA",
  "bHAdDAbDAbHAdHAdEbGAbHAdHAcIaIcJAcKAbHAdLAbLAdMAcNAbGAcNAcYAdObPAbHAdRAcSAbHAcSAdTAbHAcTAdUaU",
  "cVAcYAbYAdZAjMEDIAL RAcYAjPREFIXED NASAL SIGNtSIGN ANUSVARAiCANDRABINDUlHALANTAhNUKTAkVIRAMA",
  "fOWEL SIGN AAbIcEbIaIcObUaUwIDESdNG MASKhSION SIGNdLASHfTIMESlORCE SYMBOLmYA LAMPhZZY FACE",
  "eSYMBOLlLEcNA DOUBLE HELIXpO NOT LITTER SYMBOLsCUMENTa WITH PICTUREhTEXTa AND PICTUREzdDO",
  "cES NOT CONTAIN AS MEMBERgNORMAL SUBGROUPa OR EQUALzkDIVIDEa WITH REVERSED NEGATION SLASH",
  "zkFORCEfPRECEDEa OR EQUALoOVEfSUCCEEDa OR EQUALxGa FACEfRA ABBREVIATION SIGNrLETTER AaAbIbUcBA",
  "bHAdCAbHAdDAbDAbHAdHAdEbGAbHAdHAcIaIcJAbHAdKAbHAdLAcMAcNAbGAcNAcYAdObPAbHAdRAbRAdSAbHAcSAdTA",
  "bHAcTAbHAeUaUcVAcYAjSIGN ANUSVARAiNUKTAfVIRAMAeSARGAmVOWEL SIGN AAbIbUcEbIaIcObUaUcVOCALIC RaR",
  "zLLAR SIGNiPHINfMINO TILE HORIZONTAL BACKf-00-00b1b2b3b4b5b6e1-00b1b2b3b4b5b6e2-00b1b2b3b4b5b6",
  "e3-00b1b2b3b4b5b6e4-00b1b2b3b4b5b6e5-00b1b2b3b4b5b6e6-00b1b2b3b4b5b6qVERTICAL BACKf-00-00b1b2",
  "b3b4b5b6e1-00b1b2b3b4b5b6e2-00b1b2b3b4b5b6e3-00b1b2b3b4b5b6e4-00b1b2b3b4b5b6e5-00b1b2b3b4b5b6",
  "e6-00b1b2b3b4b5b6yNG SIGNhORcT ABOVEfMINUSfOPERATORiPLUSfTED CIRCLEfROSSfFENCEfLINE FACE",
  "jOBELOSgRIGHT-POINTING ANGLEuSOLIDUSgQUAREgTRANSPOSITION MARKERzUBLE ACUTE ACCENT",
  "mCIRCLED DIGIT EIGHTfFIVEdOUReNINEeONEdSEVENeIXdTHREEeWOjNUMBER TENrOLON EQUALkURLY LOOP",
  "kDAGGERfOWN TACKjEXCLAMATION MARKqHIGH-REVERSED-9 QUOTATION MARKzeYPHENgINTEGRALeRSECTION",
  "mLEFT ARC GREATER-THAN BRACKETzdOGICAL ANDdORiW LINEf-9 QUOTATION MARK",
  "qREVERSED-9 QUOTATION MARKzeNESTED GREATER-THANmLESS-THANa WITH UNDERBARzfOBLIQUE HYPHENoPLUS",
  "dRECEDESgIMEa QUOTATION MARKuQUESTION MARKnRIGHT ARC LESS-THAN BRACKETzcSOLIDUS OPERATOR",
  "pQUARE INTERSECTIONmUNIONlTACKED COMMAlROKE NOT SIGNoUBSETeCCEEDSgPERSETgSPENSION MARKpUNION",
  "eP TACKhVERTICAL BARa DOUBLE LEFT TURNSTILEoRIGHT TURNSTILEwLEFT TURNSTILEsLINEnWAVY OVERLINE",
  "o-ENDED MULTIMAPoLINE EQUAL TO OR GREATER-THANmLESS-THANvSLANTED EQUAL TO OR GREATER-THAN",
  "mLESS-THANvGREATER-THAN OR EQUAL TOyLESS-THAN OR EQUAL TOzjSTRUCK CAPITAL CbGAMMAfHbNbPaIcQbR",
  "bZjITALIC CAPITAL DjSMALL DbEbIbJoN-ARY SUMMATIONpSMALL GAMMAfPIqD FEMALE SIGNlMALE SIGN",
  "jSYMBOLlGHNUTgVE OF PEACElWN ARROWHEADjFISH TAILjRIGHT DIAGONAL ELLIPSISxTACK",
  "a WITH CIRCLE BELOWx-POINTING RED TRIANGLEmSMALL RED TRIANGLEsTRIANGLE WITH LEFT HALF BLACK",
  "pRIGHT HALF BLACKzpWARD FACING HOOKa WITH DOTnNOTCHED HOOKa WITH DOTzeS ANCORAfRROW",
  "a AND RIGHT ONE EIGHTH BLOCKzbFROM BARiLEFTWARDS OF UPWARDS ARROWzbTO BAR",
  "gWITH CORNER LEFTWARDSqDOUBLE STROKEnEQUILATERAL ARROWHEADvHORIZONTAL STROKE",
  "rLARGE TRIANGLE ARROWHEADyMEDIUM TRIANGLE ARROWHEADzNOTCHED TAILmSMALL EQUILATERAL ARROWHEAD",
  "vTRIANGLE ARROWHEADyTIP LEFTWARDSjRIGHTWARDSzBLACK ARROWfCIRCLED WHITE ARROWzCOMPRESSED ARROW",
  "qDASHED ARROWlOUBLE ARROWmFINGER-POST ARROW",
  "rHARPOON WITH BARB LEFT BESIDE DOWNWARDS HARPOON WITH BARB RIGHT",
  "ziUPWARDS HARPOON WITH BARB RIGHTznFROM BARiTO BARhWARDSjRIGHT FROM BARiTO BARhWARDS",
  "zcEAVY ARROWfCOMPRESSED ARROWwPAIRED ARROWSnQUADRUPLE ARROWpROCKETgSANS-SERIF ARROW",
  "pQUARED ARROWnTRIANGLE ARROWHEADk-HEADED ARROWa LEFTWARDS OF UPWARDS TRIANGLE-HEADED ARROW",
  "zrTO BARgWITH BOLD SHAFTkDOUBLE HORIZONTAL STROKEyHEAVY SHAFTlLONG TIP LEFTWARDSjRIGHTWARDS",
  "tMEDIUM SHAFTmNARROW SHAFTmVERY HEAVY SHAFTzcDASHED ARROWmPAIRED ARROWSnZIGZAG ARROWzPLE ARROW",
  "lWO HEADED ARROWn-HEADED ARROW WITH TRIANGLE ARROWHEADSzqWHITE ARROW",
  "a WITHIN TRIANGLE ARROWHEADzmZIGZAG ARROWvRACHMA SIGNjFTING POINT RIGHTWARDS ARROWzdGONa FACE",
  "jESSdIVE SLOW SIGNnOMEDARY CAMELmOLING FACEkP OF BLOODjLETfUM WITH DRUMSTICKStUCKcMPLING",
  "gPLOYAN AFFIX ATTACHED E HOOKgI HOOKgLEFT-TO-RIGHT SECANTuSECANTgTAILcNGENTa HOOKvHIGH ACUTE",
  "fCIRCLEgDOTdGRAVEfLINEdONG GRAVEkTIGHT ACUTElVERTICALa SECANTpWAVEjLEFT HORIZONTAL SECANT",
  "vOW ACUTEeRROWfCIRCLEgDOTdGRAVEfLINEdONG GRAVEkTIGHT ACUTElVERTICALa SECANTpWAVE",
  "iMID HORIZONTAL SECANTrVERTICAL SECANTtRIGHT HORIZONTAL SECANTzeDOUBLE MARKlLETTER AaOUdBbDa S",
  "cHcEaEbUcFa NdGa R SfHaLcIaEcJa Ma SdNa SdSa WITH DOTkWITH DOTaS INSIDE AND ABOVEzdKa MbR SeK",
  "cLaHbONG IbUgMa Na SdSbWITH DOTkNa Ma SdSbWITH DOTjASAL AbIbObUhOaAbOHcUbWcPa NcERNIN AMbNjR",
  "a ScHbOMANIAN IbUkSa Ja SdKa RdMbNbPa RdSbTa RdWITH DOTa BELOWpHORT IgLOAN ANcDHcEEbHbNcJbONbW",
  "cUhTa R SdScHcUa NcHbIcVaOCALIC MjWa RcAbEIcHbIbOaWdXaWcYEjPUNCTUATION CHINOOK FULL STOP",
  "zeSIGN O WITH CROSSrTHICK LETTER SELECTORzeVD"]

end TidyImports.Text.CharName
