/-!
# Names of characters from S to Z

The names that begin with these letters, in the order of the alphabet. The small letters before an
ending add up, from nothing for `a` to 25 for `z`, to how many of the last characters of the name
before give way to it.
-/

namespace TidyImports.Text.CharName

def linesFromS : List String := [
  "aS IN TRIANGLEmAFETY PINdVESTjGITTARIUSjILBOATgKE BOTTLE AND CUPrLT SHAKERhIREeUTING FACE",
  "lMARITAN ABBREVIATION MARKrLETTER ALAFeBAAcITdDALATfFIcGAMANfINbTbYcKAAFeLABATfMIMdNUNdQUF",
  "dRISHeSHANdINGAAThTAAFdITcSAADIYhYUTdZENkMARK DAGESHgEPENTHETIC YUToINa-ALAFhNEQUDAAhOCCLUSION",
  "nODIFIER LETTER EPENTHETIC YUToIbSHORT AxPUNCTUATION AFSAAQfNGEDdNAAUfRKAANUgTMAAUgBAU",
  "dMELODIC QITSAnNEQUDAAhQITSAfSHIYYAALAAjOF MASHFAATmTURUeZAEFdIQAArVOWEL SIGN AaAcEbIbLONG AaA",
  "cEbIbUgOaVERLONG AaAlSHORT AgUKUNfUuNDWICHfS-SERIF HEAVY DOUBLE COMMA QUOTATION MARK ORNAMENT",
  "zeTURNED COMMA QUOTATION MARK ORNAMENTzsLOW DOUBLE COMMA QUOTATION MARK ORNAMENT",
  "zvINTERROBANG ORNAMENTzeRIcTELLITEa ANTENNAoURNeURASHTRA CONSONANT SIGN HAARUuDANDAeIGIT EIGHT",
  "fFIVEdOUReNINEeONEdSEVENeIXdTHREEeWOdZEROjOUBLE DANDAmLETTER AaAbIbUcBAbHAdCAbHAdDAbDAbHAdHAdE",
  "aEcGAbHAdHAcIaIcJAbHAdKAbHAdLAbLAdMAcNAbGAcNAcYAdOaOcPAbHAdRAcSAbHAcSAdTAbHAcTAbHAeUaUcVA",
  "bOCALIC LaLcRaRkYAjSIGN ANUSVARAiCANDRABINDUlVIRAMAeSARGAmVOWEL SIGN AAbIbUcEaEcIaIcOaOcUaU",
  "cVOCALIC LaLcRaRzdOPODgXOPHONEiCALESdRFdHOOLa SATCHELmIbOOTEReRPIONcUSgREENcWDRIVER",
  "iIPT CAPITAL BbEbFbHbIbLbMbPbRjLIGATURE ET ORNAMENTuSMALL EbGbLbOlOLLdUPLEgEALbT",
  "cCOND PLACE MEDALpTION SIGNiOReDNAdE-NO-EVIL MONKEYpDLINGgGMENTaED DIGIT EIGHTfFIVEdOUReNINE",
  "eONEdSEVENeIXdTHREEeWOdZEROsLFIEeMICOLONfDIRECT PRODUCT WITH BOTTOM CLOSEDziSEXTILE",
  "jPARATED SYMBOLoRIOUS FACE WITH SYMBOLS COVERING MOUTHzmVICE MARKkSAME DOThQUIQUADRATEmT MINUS",
  "fTRANSMIT STATEqWING NEEDLElXTILEgGCcHADOWED WHITE CIRCLEgLATIN CROSSlSTARqLLOW PAN OF FOOD",
  "qMROCKfRADA ABBREVIATION SIGNrCONTINUATION SIGNrDANDAeIGIT EIGHTfFIVEdOUReNINEeONEdSEVENeIX",
  "dTHREEeWOdZEROjOUBLE DANDAmEKAMdXTRA SHORT VOWEL MARKwHEADSTROKEkLETTER AaAbIbUcBAbHAdCAbHAdDA",
  "bDAbHAdHAdEbGAbHAdHAcIaIcJAbHAdKAbHAdLAbLAdMAcNAbGAcNAcYAdObPAbHAdRAcSAbHAcSAdTAbHAcTAbHAeUaU",
  "cVAbOCALIC LaLcRaRkYAjOMcSANDHI MARKkECTION MARK-1b2mPARATORiIGN ANUSVARAhVAGRAHAiCANDRABINDU",
  "lINVERTED CANDRABINDUuJIHVAMULIYAlNUKTAfSIDDHAMhUPADHMANIYAlVIRAMAeSARGAlUTRA MARK",
  "kVOWEL MODIFIER MARKnSIGN AAbIbUcEbIaIcObPRISHTHAMATRA EpUaUcVOCALIC LaLcRaRzKcVED ICE",
  "gIAN LETTER ADOcGEcHbIRcREbRAYeSHcWEdBIBdCHURCHgDEADeEARbTcGGcRRdFEEdGAGdHA-HAeUNGeIANcCEcF",
  "cJUDGEfKICKeLOLLeMEASUREgIMEeNUNdOAKcILcNbOZEdRbUTdPEEPeROAReSObUREeTHEYcIGHeOTdUPcVOWdWOEbOL",
  "eYEAbWdZOOqEEPdIELDdFT INcOUTgNTO SHRINEkPcOCKED FACE WITH EXPLODING HEADzeOTING STAR",
  "kPPING BAGSeTROLLEYnRT BACKSLANTED SOUTH ARROWwENT ARROW POINTING DOWNWARDS THEN NORTH EAST",
  "zuDOWN TACKa WITH OVERBARwLEFT TACKjRIGHTWARDS ARROW ABOVE LEFTWARDS ARROW",
  "znSLANTED NORTH ARROWtUP TACKa ABOVE SHORT DOWN TACKvWITH UNDERBARwCAKE",
  "eHAND FORMAT CONTINUING OVERLAPsDOWN STEPjLETTER OVERLAPoUP STEPtSdULDERED OPEN BOXqWEReRIMP",
  "dUGdUFFLE PRODUCTnYcIaDDHAM DANDAeOUBLE DANDAmEND OF TEXT MARKqLETTER AaAbIbLTERNATE UkUcBAbHA",
  "dCAbHAdDAbDAbHAdHAdEbGAbHAdHAcIaIcJAbHAdKAbHAdLAcMAcNAbGAcNAcYAdObPAbHAdRAcSAbHAcSAdTAbHA",
  "bREE-CIRCLE ALTERNATE IxTAbHAdWO-CIRCLE ALTERNATE IaIxUaUcVAbOCALIC LaLcRaRkYA",
  "jREPETITION MARK-1b2b3rSECTION MARK DOUBLE RINGa WITH RAYSvWITH CIRCLES AND FOUR ENCLOSURES",
  "pRAYSeTWO ENCLOSURESzbDOUBLE CRESCENTSqQUADRUPLE CRESCENTStRAYS AND DOTTED CRESCENTS",
  "jDOUBLE CRESCENTSqTRIPLE CRESCENTSzhSEPTUPLE CRESCENTSsTRIDENT AND DOTTED CRESCENTS",
  "qU-SHAPED ORNAMENTSzcPLE CRESCENTSzhPARATOR BARdDOTmIGN ANUSVARAiCANDRABINDUlNUKTAfSIDDHAM",
  "hVIRAMAeSARGAmVOWEL SIGN AAbIbLTERNATE UaUlUcEbIaIcObUaUcVOCALIC RaR",
  "zbEWAYS BLACK DOWN POINTING INDEXtLEFT POINTING INDEXtRIGHT POINTING INDEXuUP POINTING INDEX",
  "xWHITE DOWN POINTING INDEXtLEFT POINTING INDEXtRIGHT POINTING INDEXuUP POINTING INDEX",
  "zfGN OF THE HORNSnWRITING AIR BLOW SMALL ROTATIONSqING OUTlSUCK SMALL ROTATIONSqING IN",
  "oBREATH EXHALEgINHALElUSH BETWEENhMULTIPLEiSINGLEmCHEEKS NEUTRALhPUFFEDgSUCKEDmOLONdMMA",
  "fDREAMY EYEBROWS DOWN NEUTRALmNEUTRAL DOWNeUPkUP NEUTRALzYNAMIC ARROWHEAD LARGEfSMALL",
  "pEVERY OTHER TIMEqFASTeGRADUALhRELAXEDhSIMULTANEOUSa ALTERNATINGxLOWeTENSEnEARSdXCITEMENT",
  "jYE BLINK MULTIPLEiSINGLEmWINKfBROWS STRAIGHT DOWNeNEUTRALhUPrGAZE-FLOORPLANE CURVEDgSTRAIGHT",
  "a ALTERNATINGlDOUBLEzbWALLPLANE CIRCLINGhURVEDgSTRAIGHTa ALTERNATINGlDOUBLEzfLASHES DOWN",
  "eFLUTTERINGkUPjS CLOSEDgHALF CLOSEDgOPENjOPENeSQUEEZEDiWIDE OPENfNING MOVEMENT",
  "wFACE DIRECTION POSITION NOSE FORWARD TILTINGpUP OR DOWNa TILTINGzvILL MODIFIER-2b3b4b5b6nNGER",
  "fLICK LARGE MULTIPLEiSINGLEmSEQUENTIALjMALL MULTIPLEiSINGLEqOORPLANE SHOULDER HIP MOVE",
  "zcOREHEAD CONTACThNEUTRALhWRINKLEDqULL STOPjGRASP BETWEENhMULTIPLEiSINGLEmHAIRcND-ANGLEa INDEX",
  "a MIDDLE LITTLEgRINGlRING LITTLEa OUTpTHUMBa INcOUTpLITTLE INDEXa THUMB INDEX THUMBa OUTzcUP",
  "jMIDDLE RING LITTLEa INcOUTwRING DOWN MIDDLE THUMB INDEX CROSSzeLITTLErCIRCLEa INDEXa BENT",
  "eHINGEfMIDDLEa CROSS LITTLEhEDhLITTLEgRINGeTHUMBmRING LITTLErLITTLE INDEXfUP",
  "jMIDDLE RING LITTLEa BENTqUPjRING LITTLErLAWa FOUR FINGERS CONJOINED",
  "wINDEX THUMB CURVE THUMB INSIDEzfMIDDLE RING LITTLE CONJOINEDa SIDEziNO THUMBiTHUMB FORWARD",
  "hSIDEoUPa FIVE FINGERS SPREADa OPENyINDEXa RING LITTLElTHUMBa OPENqMIDDLE RING LITTLEsNO THUMB",
  "iOPENa NO THUMBiTHUMB FORWARDhSIDEpTHUMB FORWARDhSIDEmRLICUEa INDEX RING LITTLE ON",
  "uMIDDLE RING LITTLE ONvOPENnFISTa FOUR FINGERS CONJOINED BENTzcHEELeINDEXa BENTa OVER MIDDLE",
  "qCUPPEDgHINGEDa LOWdMIDDLE UPa THUMB SIDEzcMIDDLEa BENTa THUMB STRAIGHTtCONJOINEDa CUPPED",
  "a THUMB FORWARDuHINGEDa THUMB SIDErINDEX BENTkMIDDLE BENTlTHUMB FORWARDhSIDEa BENTeCONJOINED",
  "zeROSS LITTLEhEDa THUMB SIDEsHINGEDa SPREAD THUMB SIDEyLITTLEgRAISED KNUCKLESoINGa BENT",
  "eCONJOINEDoSTRAIGHT THUMB BENTtTHUMBa ANGLEDa OUTkBENTeCIRCLEDgONJOINED HINGEDpUPPEDgHINGED",
  "fOOKEDmUP SPREAD THUMB FORWARDzfRAISED KNUCKLEnING LITTLElTHUMB ANGLED IN MIDDLE UP",
  "mOUT MIDDLE UPuCIRCLEaD MIDDLE UPqUPPED MIDDLE UPoRLICUEfVE THUMB INSIDEgUNDER",
  "rFORWARD INDEX BENTeSTRAIGHTwHOOKaED MIDDLE HINGEDgUPqSIDEa BOTH BENTjINDEX BENTeHINGE",
  "lTHUMB BENTeCONJOINEDjDIAGONALzUP MIDDLE HINGEDa THUMB CONJOINEDjSIDEziLITTLE BENTeDOWN",
  "a OTHERS CIRCLEDoRIPPLE CURVEDgSTRAIGHTuINDEXa THUMBlRAISED KNUCKLEoTHUMBeOUCHES THUMBnUP",
  "jMIDDLE BENT OVER INDEXpDOWNeLITTLEgRAISED KNUCKLEnING LITTLElTHUMB ANGLED INDEX UP",
  "iOUT INDEX CROSSEDhUPtCIRCLED INDEX HINGEDgUPpUPPED INDEX UPpHOOKED INDEX UPpLITTLEmUP",
  "a THUMB SIDEuRING DOWNeINDEXfLITTLEgMIDDLEa CONJOINEDjRAISED KNUCKLESwRAISED KNUCKLEoTHUMBfUP",
  "hTHUMBa BETWEEN INDEX MIDDLEa STRAIGHTvMIDDLE RINGlRING LITTLEtFORWARDhHEEL",
  "eOVER FOUR RAISED KNUCKLESuTWO FINGERSqSIDE BENTeCONJOINEDjDIAGONALnUNDER FOUR FINGERS",
  "mINDEX BENTkLITTLE UPjTHREE FINGERSmWO FINGERSzcLATa BETWEEN PALM FACINGSuFIVE FINGERS SPREAD",
  "a BENTeFOUR BENTjHINGEDa NO THUMBiTHUMB SIDErTHUMB FORWARDzhOUR FINGERSa BENTeCONJOINEDa SPLIT",
  "pHINGEDtHEELa FIVE FINGERS SPREADa BENTeFOUR BENTzeTHUMB SIDEpSPLIT CENTREa THUMB SIDEa BENT",
  "wINDEX THUMB SIDEqLITTLEmTHUMB BENTeFORWARDhSIDEpHINGEa FIVE FINGERS SPREAD OPEN",
  "xOUR FINGERS CONJOINEDwINDEXa HINGEDgMIDDLE LITTLEgRINGa CONJOINEDvRING LITTLElTHUMBa LARGE",
  "fOPENeSIDEdMALLrLITTLEa INDEXa THUMBlTHUMBmMIDDLEa RING LITTLEsNO THUMBiOPENa NO THUMB",
  "iTHUMB FORWARDhSIDEpRINGa DOWN INDEX THUMB HOOK MIDDLEziSMALLfTHUMB BETWEEN MIDDLE RINGtSIDE",
  "a TOUCHING INDEXzfOOKa CURLICUEiINDEX RING LITTLE INcOUTdUNDERxMIDDLE RING LITTLE CONJOINED",
  "a INcOUTzTHUMBmRING THUMBpOVALa FIVE FINGERS SPREADtINDEXfLITTLE UPjNO THUMBiRING LITTLE",
  "lTHUMB FORWARDhSIDEtEADa MOVEMENT CIRCLEh-FLOORPLANE CURVEfSTRAIGHTtWALLPLANE CURVEfSTRAIGHT",
  "iTILTxRIMiLIMB COMBINATIONlLENGTH-1b2b3b4b5b6b7lP LOWER OVER UPPERqUPPER OVER LOWER",
  "rS PRESSED TOGETHERuOCATION DEPTHfHEAD NECKhIGHTgLIMBS DIGITSmTORSOfWIDTHg-FLOORPLANE SPACE",
  "qWALLPLANE SPACEyMOUTH CLOSED CONTACThFORWARDhNEUTRALnORNERShFROWNa OPENeWRINKLEDoKISS",
  "a FORWARDhWRINKLEDnOPEN CIRCLEgFORWARDhOVALa WRINKLEDiYAWNjRECTANGLEa WRINKLEDiYAWNoWRINKLED",
  "nSMILEa OPENeWRINKLEDoTENSEa FORWARDhSUCKEDmWRINKLES DOUBLEgSINGLEtVEMENT-DIAGONAL AWAY LARGE",
  "aSThMEDIUMgSMALLkBETWEEN AWAY LARGEaSThMEDIUMgSMALLkTOWARDS LARGEaSThMEDIUMgSMALL",
  "vTOWARDS LARGEaSThMEDIUMgSMALLwFLOORPLANE ARM CIRCLE HITTING WALL LARGE DOUBLEgSINGLE",
  "mMEDIUM DOUBLEgSINGLEnSMALL DOUBLEgSINGLEzlBENDdOX LARGEfMEDIUMgSMALLjCHECKeORNER LARGEfMEDIUM",
  "gSMALLlROSSeURVE COMBINEDiHITTING CEILING LARGEfSMALLnFLOOR LARGEfSMALLtLARGEaSThMEDIUMgSMALL",
  "lDOUBLE ALTERNATINGa WRIST FLEXwSTRAIGHTiWRIST FLEXrFINGER CIRCLES HITTING WALL DOUBLEgSINGLE",
  "zbONTACToHUMP HITTING CEILING LARGE DOUBLEgTRIPLEmSMALL DOUBLEgTRIPLEuFLOOR LARGE DOUBLE",
  "mSMALL DOUBLEmTRIPLE LARGE TRIPLEmSMALL TRIPLEziSMALLkJAWdLOOP HITTING CEILING LARGE DOUBLE",
  "gSINGLEmSMALL DOUBLEgSINGLEuFLOOR LARGE DOUBLEgSINGLEmSMALL DOUBLEgSINGLEzbSMALLkPEAKS LARGE",
  "fMEDIUMgSMALLlSHAKING PARALLELpINGLE STRAIGHT LARGEaSThMEDIUMgSMALLoWRIST FLEX",
  "rTRIPLE ALTERNATING MOVEMENTiWRIST FLEXwSTRAIGHT MOVEMENTrWRIST FLEX",
  "rWAVE HITTING CEILING LARGEfSMALLnFLOOR LARGEfSMALLtLARGEfSMALLeNAKE",
  "jRIST CIRCLE HITTING WALL DOUBLEgSINGLEzhZIGZAG LARGEfMEDIUMgSMALLxHINGE DOWN SEQUENTIAL",
  "pSIDE TO SIDE SCISSORSvUP DOWN ALTERNATING LARGEfSMALLrLARGEfSMALLkSEQUENTIAL",
  "tWALLPLANE ARM CIRCLE MEDIUM DOUBLEgSINGLEnSMALL DOUBLEgSINGLExBEND LARGEfMEDIUMgSMALL",
  "jOX LARGEfMEDIUMgSMALLjCHECK LARGEfMEDIUMgSMALLkORNER LARGEfMEDIUMgROTATIONiSMALLlROSS",
  "eURVE HALF-CIRCLE LARGEaSThMEDIUMgSMALLqITTING CHESTfFRONT WALLsQUARTER LARGEaSThMEDIUMgSMALL",
  "nTHEN STRAIGHTlREE-QUARTER CIRCLE MEDIUMgSMALLzcD CROSS MEDIUMgSMALLsDOUBLE ALTERNATING",
  "a WRIST FLEXwSTRAIGHTiWRIST FLEXrFINGER CIRCLES DOUBLEgSINGLEnONTACToHUMP HITTING CHEST",
  "fFRONT WALLsLARGEfMEDIUMgSMALLkJAWdLOOP HITTING CHESTfFRONT WALLsLARGEfMEDIUMgSMALLa DOUBLE",
  "rPEAKS LARGEfMEDIUMgSMALLlSHAKINGgINGLE STRAIGHT LARGEaSThMEDIUMgSMALLoWRIST FLEX",
  "rTRIPLE ALTERNATINGa WRIST FLEXwSTRAIGHT MOVEMENTrWRIST FLEXrWAVE CURVE DOUBLE LARGEfMEDIUM",
  "gSMALLmTRIPLE LARGEfMEDIUMgSMALLsDIAGONAL PATH LARGEfMEDIUMgSMALLtHITTING CHESTfFRONT WALL",
  "wRIST CIRCLE FRONT DOUBLEgSINGLEzZIGZAG LARGEfMEDIUMgSMALLzgNECKdOSE CONTACThNEUTRALhWIGGLES",
  "gRINKLESnPARENTHESISlROTATION MODIFIER-10b1b2b3b4b5b6c2b3b4b5b6b7b8b9l-FLOORPLANE ALTERNATING",
  "a HITTING CEILINGhFLOORzDOUBLEa HITTING CEILINGhFLOORuSINGLEa HITTING CEILINGhFLOOR",
  "zgWALLPLANE ALTERNATEbING HITTING CHESTfFRONT WALLzfDOUBLEa HITTING CHESTfFRONT WALLzSINGLE",
  "a HITTING CHESTfFRONT WALLzsUB BETWEENhMULTIPLEiSINGLEkSEMICOLONiHOULDER HIP POSITIONSjSPINE",
  "jTILTING FROM WAISTzbQUEEZE FLICK ALTERNATINGrLARGE MULTIPLEiSINGLEmSEQUENTIALjMALL MULTIPLE",
  "iSINGLEtTRIKE BETWEENhMULTIPLEiSINGLEmURFACE BETWEENhSYMBOLSpTEETHa BITE LIPSjMOVEMENTiON LIPS",
  "a MOVEMENTnTONGUEa MOVEMENTwNSE CHEEKS HIGHeLOWdMIDDLEsONGUE CENTRE INSIDE MOUTHmSTICKING OUT",
  "tINSIDE MOUTH RELAXEDuLICKING LIPSmMOVES AGAINST CHEEKtSTICKING OUT FARqTIP BETWEEN LIPS",
  "mTOUCHING INSIDE MOUTHzfRSO-FLOORPLANE TWISTINGtWALLPLANE CURVED BENDlSTRAIGHT STRETCH",
  "zfUCH BETWEENhMULTIPLEiSINGLElRAVEL-FLOORPLANE ROTATION-FLOORPLANE ALTERNATINGlDOUBLEgSINGLE",
  "rWALLPLANE ALTERNATINGlDOUBLEgSINGLEzSHAKINGsWALLPLANE ARM SPIRAL DOUBLEgSINGLEgTRIPLE",
  "rROTATION-FLOORPLANE ALTERNATINGlDOUBLEgSINGLErWALLPLANE ALTERNATINGlDOUBLEgSINGLEzSHAKING",
  "yUPPER BODY TILTING FROM HIP JOINTSzjWALLPLANE SHOULDER HIP MOVEzmLHOUETTE OF JAPAN",
  "rMILAR ABOVE GREATER-THAN ABOVE EQUALS SIGNzfLESS-THAN ABOVE EQUALS SIGNziMINUS SIMILAR",
  "nOR GREATER-THANmLESS-THANsNE WAVEgGLE CHARACTER INTRODUCERuGRAPHIC CHARACTER INTRODUCER",
  "zdHIGH-REVERSED-9 QUOTATION MARKzfLEFT-POINTING ANGLE QUOTATION MARKziOW-9 QUOTATION MARK",
  "uRIGHT-POINTING ANGLE QUOTATION MARKzkSHIFT THREEeWOk-SHIFT-2b3lHALA ARCHAIC DIGIT EIGHTfFIVE",
  "dOUReNINEeONEdSEVENeIXdTHREEeWOjNUMBER EIGHTYgFIFTYeORTYfNINETYgONE HUNDREDhTHOUSANDmSEVENTY",
  "gIXTYfTENcHIRTYfWENTYvLETTER AAYANNAgEEYANNAgYANNAgIYANNAgLPAPRAANA BAYANNAhCAYANNAhDAYANNA",
  "gDAYANNAiGAYANNAhJAYANNAhKAYANNAhPAYANNAhTAYANNAgTAYANNAsMBA BAYANNAlUYANNAgYANNA",
  "gDANTAJA LAYANNAhNAYANNAhSAYANNApEEYANNAgYANNAgFAYANNAhHAYANNAhIIYANNAgLUUYANNAgYANNAhRUUYANNA",
  "gYANNAhYANNAgKANTAJA NAASIKYAYAsMAHAAPRAANA BAYANNAhCAYANNAhDAYANNAgDAYANNAiGAYANNAhJAYANNA",
  "hKAYANNAhPAYANNAhTAYANNAgTAYANNAsYANNAgUURDHAJA LAYANNAhNAYANNAhSAYANNArOOYANNAgYANNAgRAYANNA",
  "hSANYAKA DAYANNAgDAYANNAiGAYANNAhJAYANNApTAALUJA NAASIKYAYAkSANYOOGA NAAKSIKYAYAsYANNApUUYANNA",
  "gYANNAgVAYANNAhYAYANNAnITH DIGIT EIGHTfFIVEdOUReNINEeONEdSEVENeIXdTHREEeWOdZERO",
  "pPUNCTUATION KUNDDALIYAwSIGN AL-LAKUNAiNUSVARAYAkCANDRABINDUlVISARGAYAoVOWEL SIGN AELA-PILLA",
  "kDIGA AEDA-PILLAkGAETTA-PILLAkYANUKITTAlIS-PILLAiKOMBUVAhPAA-PILLAoGAETTA-PILLAkYANUKITTA",
  "lKETTI AEDA-PILLAkIS-PILLAiPAA-PILLAoOMBU DEKAfVAa HAA AELA-PILLAkDIGA AELA-PILLApGAYANUKITTA",
  "zpX PETALLED BLACK AND WHITE FLORETTEzhOINTED BLACK STARkPINWHEEL STARnSTAR WITH MIDDLE DOT",
  "ze-PER-EM SPACEnTEEN POINTED ASTERISKxKATEBOARDiI AND SKI BOOTnERdULLa AND CROSSBONESrNK",
  "eLANTED EQUAL TO OR GREATER-THANa WITH DOT INSIDEzdLESS-THANa WITH DOT INSIDE",
  "zmNORTH ARROW WITH HOOKED HEADjRIZONTAL TAILzmVONIC ASTERISKpEDbEPING ACCOMMODATIONnFACE",
  "eSYMBOLkY FACEiUTH OR SPYlICE OF PIZZAlGHTLY FROWNING FACEnSMILING FACEtOPEbING LARGE ANDdOR",
  "nT MACHINEiHeMALL AIRPLANEhMPERSANDiSTERISKiBLUE DIAMONDmCOLONdMMAbERCIAL ATlNTAINS AS MEMBER",
  "jWITH OVERBARhVERTICAL BAR AT END OF HORIZONTAL STROKEzzeDOLLAR SIGNlELEMENT OFa WITH OVERBAR",
  "hVERTICAL BAR AT END OF HORIZONTAL STROKEzzfM DASHgQUALS SIGNkXCLAMATION MARKqFULL STOP",
  "jGREATER-THAN SIGNrHYPHEN-MINUSmIDEOGRAPHIC COMMArLEFT CURLY BRACKETnPARENTHESIS",
  "lTORTOISE SHELL BRACKETzSS-THAN SIGNoNUMBER SIGNlORANGE DIAMONDoPERCENT SIGNlLUS SIGN",
  "jQUESTION MARKnREVERSE SOLIDUSoIGHT CURLY BRACKETnPARENTHESISlTORTOISE SHELL BRACKET",
  "zcOMAN NUMERAL EIGHTeLEVENgFIFTYdVEa HUNDREDlOUReNINEeONEa HUNDREDhTHOUSANDmSEVENeIXdTENcHREE",
  "eWELVEeOrSEMICOLONjTILDEeWO DOTS OVER ONE DOT PUNCTUATIONziVEE WITH UNDERBARsER THAN",
  "a OR EQUAL TOvSH PRODUCTlILEbING CAT FACE WITH HEART-SHAPED EYESrOPEN MOUTHyFACE WITH HALO",
  "dEART-SHAPED EYESqORNSfOPEN MOUTHa AND COLD SWEATkSMILING EYESmTIGHTLY-CLOSED EYES",
  "zjSMILING EYESa AND HAND COVERING MOUTHtTHREE HEARTSzdUNGLASSESkTEARtRKING FACElOKING SYMBOL",
  "nNAILcKEdEEZING FACElOW CAPPED MOUNTAINqBOARDERhFLAKEfMANa WITHOUT SNOWtOaCCER BALLiKS",
  "dFT HYPHENgICE CREAMjSHELL FLOPPY DISKsBALLeWARE-FUNCTION SYMBOLwGDIAN COMBINING CURVE ABOVE",
  "fBELOWlDOT ABOVEfBELOWjHOOK ABOVEfBELOWkLONG HOOK BELOWpRESH BELOWkSTROKE BELOWmTWO DOTS ABOVE",
  "fBELOWyINDEPENDENT SHINqLETTER ALEPHeYINeBETHeFETHeGIMELfHEaTHeKAPHeLAMEDHfESHeMEMdNUNdPE",
  "cRESH-AYINjSADHEdMEKHfHINeTAWdWAWdYODHeZAYINmNUMBER ONEa HUNDREDlTENcWENTY",
  "nPUNCTUATION CIRCLE WITH DOTpHALF CIRCLE WITH DOTuTWO CIRCLES WITH DOTSrVERTICAL BARS",
  "a WITH DOTSzuHbLID QUILT SQUARE ORNAMENTa IN BLACK SQUAREznUSa WITH OVERBARsM SIGN",
  "gON WITH RIGHTWARDS ARROW ABOVEzfRA SOMPENG DIGIT EIGHTfFIVEdOUReNINEeONEdSEVENeIXdTHREEeWO",
  "dZEROkLETTER AHcBAHdCAHdDAHdEEHcHcGAHdHAHdIHcJAHdKAHdLAHdMAEbHdNAHcGAHdYAHeOHcPAHdRAHdSAHdTAH",
  "dUHcVAHdYAHvSbUND RECORDING COPYRIGHTwTH EAST ARROWa AND SOUTH WEST ARROW",
  "uCROSSING NORTH EAST ARROWzTO CORNERjWITH HOOKpBLACK ARROWlDOUBLE ARROWmPOINTING BUDdLEAF",
  "eVINE LEAFsSANS-SERIF ARROWqTRIANGLE-HEADED ARROWa TO BARzdWHITE ARROWqWEST ARROW",
  "a AND NORTH WEST ARROWuWITH HOOKpBLACK ARROWlDOUBLE ARROWmPOINTING BUDdLEAFeVINE LEAF",
  "sSANS-SERIF ARROWqTRIANGLE-HEADED ARROWa TO BARzdWHITE ARROWuYOMBO CLUSTER-INITIAL LETTER LA",
  "cRAcSAbHAzbFINAL CONSONANT SIGN -AcBbDbGbKbLbMbNaGcRbSaHxGEMINATION MARK",
  "pHEAD MARK WITH MOON AND SUNa AND FLAMEfTRIPLE FLAMEztLETTER -AcAbBAbHAdCAbHAdDAbDAbHAdHAcZA",
  "dGAbHAdHAcJAbHAdKAbHAcSSAeLAcMAcNAbGAcNAcYAdPAbHAdRAcSAbHAcSAdTAbHAcSAbHAdTAbHAeVAcYAcZAbHA",
  "kMARK DOUBLE SHADlPLUTAfSHADeTSHEGkSIGN ANUSVARAiJIHVAMULIYAlUPADHMANIYAlVISARGAlUBJOINER",
  "jTERMINAL MARK-1b2pVOWEL LENGTH MARKlSIGN AIbUcEbIbOaEcUaEcVOCALIC LbRzcPaAaCEcGHETTIgRKLEaS",
  "cING HEARTnEAK-NO-EVIL MONKEYpERa WITH CANCELLATION STROKEtONE SOUND WAVEoTHREE SOUND WAVES",
  "zING HEAD IN SILHOUETTEyECH BALLOONkDBOATgSMILO SIGNlHERICAL ANGLEa OPENING LEFTeUPyIDERa WEB",
  "hRAL CALENDAR PADmNOTE PADiSHELLkLASHING SWEAT SYMBOLuONGEdOL OF THREADlNcRTS MEDAL",
  "jUTING WHALEnQUARE A OVER MhARUdMbNPEAePAATOfRUHUAfUcBAARERUfRcEETAeIRUdORUTOfQbUSSYERU",
  "iC OVER KGiALbPcCbDbMa CUBEDfSQUAREDjOaRPORATIONkUPdDAaASUeBbESIdJbLbMa CUBEDfSQUAREDjORU",
  "eEEKAAeRA NAME HEISEIgMEIZIfREIWAfSYOUWAgTAISYOUoGcSUKUUDOhVcFMbOOTcUR CORNERSmGALbNMAdRONeB",
  "bHZcIGAcNIIdRUDAAgPAcURAMUaTONiYcHAaITUeEKUTAARUhRUTUfGbIRAGANA HOKAmONbONbRUePaAcUARADDOgIITO",
  "eRANeZcIMAGE OFa OR EQUAL TOiNOT EQUAL TOxNaINGUeTIdUcK OHMeAaIRIdRATTOeORIIgBbCALdEESUeGbHZ",
  "cIROaGURAMUgMEETORUhWATTOiKbLbMa CAPITALgUBEDfSQUAREDjOOPOdRUNAfPAcTbUROONEeUZEIROiVbWbYURII",
  "gLEFT OPEN BOX OPERATORvMbNbOGbZENGEgXcM CUBEDfOHMcVER Sa SQUAREDoSQUAREDiAaHHAdIKUROeRUdNSYON",
  "fRUKUfBa SMALLhEETORUfGAaTONgGbHZcIKURONfLbRIaBAARUiLbMa CUBEDfSQUAREDjOLcPAcSbU AbFbGbLbMbSbV",
  "bWdVa MEGAgWa MEGAhNAaNOdFbMbOTTOeSbVbWcONSUdOMUdRIGINAL OFa OR EQUAL TOiNOT EQUAL TOzbVcPA",
  "a AMPSfASENTOfTUeCbEEZIdNIHIdSUdSOdFbHbIASUTORUhKObURUfMbOINTOeNDOdSITION INDICATORrPMcRbSbVbW",
  "cRADa OVER Sa SQUAREDrEMUcNTOGENhIGHT OPEN BOX OPERATORvRAcTTORUgOOTdUPIIdUBURUhSAIKURUfNTIIMU",
  "hENTIbOeIRINGUgRbVcTARGETfHZcONdUONdV OVER MiWATTOeBbITH BOTTOM HALF BLACKrCONTOURED OUTLINE",
  "rDIAGONAL CROSSHATCH FILLyHORIZONTAL FILLpLEFT HALF BLACKoOWER LEFT DIAGONAL HALF BLACK",
  "yRIGHT DIAGONAL HALF BLACKzgORTHOGONAL CROSSHATCH FILLzbRIGHT HALF BLACKqTOP HALF BLACK",
  "oUPPER LEFT DIAGONAL HALF BLACKtTO LOWER RIGHT FILLyRIGHT DIAGONAL HALF BLACK",
  "tTO LOWER LEFT FILLzfVERTICAL FILLsYAADOcRUeUANfD ASTERISKiCJK UNIFIED IDEOGRAPH-4E00b9c2Dc8C",
  "cA4e518Dd21Dc4Dc72d3CCcF3d408c39d5B6d8F0d91Ac29dB57dDE6dF8Ce624Bc53c95d307c55d599cB0d620d708b9",
  "dE80dF14e7121d51Fc33d981dA7AdD42e89E3dCA9dD70e904Ad14DzLbOOLeDOT OPERATORmEIGHT K",
  "hFALLING DIAGONAL SLASHvIVE POINT ONEnOUR DOT PUNCTUATIONpKfREEeHCbDRcI-RESfVcIDcKATAKANA DE",
  "cKOKOeSAkEYdLATIN CAPITAL LETTER AbBbCbDbEbFbGbHbIbJbKbLbMbNbObPbQbRbSbTbUbVbWbXbYbZ",
  "qSMALL LETTER DtOGICAL ANDdORiSSLESSiMINUSeVcNEWcGcOKbNE HUNDRED TWENTY PuPLUSdPV",
  "dRISING DIAGONAL SLASHvSALTIREgDbECOND SCREENlVEN POINT ONEoHVcIXTY PgMALL CIRCLElOScQUAREfS",
  "cTHREE DgIMESeWENTY-TWO POINT TWOsO KfUHDcP WITH EXCLAMATION MARKyVODcScWC",
  "gT BLACK RIGHTWARDS ARROWzIDeS2b3bAcTaADIUMeFF OF AESCULAPIUSlHERMESmMPED ENVELOPE",
  "nNDING PERSONmR AND CRESCENTmEQUALSgOF DAVIDhPERATORiWITH LEFT HALF BLACKpRIGHT HALF BLACK",
  "wT OF GUARDED AREAmHEADINGhPROTECTED AREAoSELECTED AREAmTRINGgTEXTkTIONdUE OF LIBERTY",
  "pEAM LOCOMOTIVElING BOWLkNOGRAPHIC FULL STOPtTHOSCOPEjICK FIGUREa LEANING LEFTeRIGHT",
  "nWITH ARMS RAISEDlDRESSvOCK CHARTiPWATCHhRAIGHT RULERgNESSiWBERRYhESS OUTLINED WHITE STAR",
  "xICTLY EQUIVALENT TOsNG TERMINATORpSbUDIO MICROPHONEoFFED FLATBREADoPAdXcUBaSCRIPT EIGHT",
  "eQUALS SIGNlFIVEdOUReLEFT PARENTHESISqMINUSfNINEeONEdPLUS SIGNjRIGHT PARENTHESISrSEVENeIX",
  "dTHREEeWOdZEROkET ABOVE RIGHTWARDS ARROWqSUBSETePERSEToOFa ABOVE ALMOST EQUAL TOpEQUALS SIGN",
  "lNOT EQUAL TOmTILDE OPERATORuOR EQUAL TOa WITH DOT ABOVEzbWITH NOT EQUAL TOuWITH DOT",
  "dMULTIPLICATION SIGN BELOWzPLUS SIGN BELOWxTITUTEiCCEEDSa ABOVE ALMOST EQUAL TOpEQUALS SIGN",
  "lNOT ALMOST EQUAL TOpEQUAL TOmSINGLE-LINE EQUALS SIGNlNOT EQUAL TOzfBUT NOT EQUIVALENT TO",
  "vOR EQUAL TOfIVALENT TOqUNDER RELATIONvMMATION BOTTOMgTOPdWITH INTEGRALvNa BEHIND CLOUD",
  "mWITH FACEkDANESE AVAGRAHAiCONSONANT SIGN PAMINGKALhNYAKRAeIKUfSANGAN MAcWAzbDIGIT EIGHTfFIVE",
  "dOUReNINEeONEdSEVENeIXdTHREEeWOdZEROkLETTER AaEcBAbHAdCAcDAcEaUcFAbINAL KbMhGAcHAcIbJAcKAbHA",
  "dLAbEUdMAcNAbGAcYAdObPAcQAcRAbEUdSAbYAdTAcUbVAcWAcXAcYAcZAjPUNCTUATION BINDU BA SATANGAkCAKRA",
  "fDA SATANGAkKA SATANGAkLEU SATANGAlPANGLONGhURNAMAhSURYAxSIGN PAMAAEHfNGLAYARfWISADgYECEK",
  "iVIRAMAlVOWEL SIGN PAMEPETfNAELAENGhEULEUNGhGHULUfOLONGfYUKUzFLOWERgRISEa OVER MOUNTAINS",
  "tSET OVER BUILDINGStPERHEROeSCRIPT EIGHTeQUALS SIGNlFIVEdOUReLATIN SMALL LETTER IbN",
  "tEFT PARENTHESISqMINUSfNINEeONEdPLUS SIGNjRIGHT PARENTHESISrSEVENeIXdTHREEeWOdZERO",
  "kET ABOVE LEFTWARDS ARROWpSUBSETePERSEToBESIDE AND JOINED BY DASH WITH SUBSETzfSUBSETnOF",
  "a ABOVE ALMOST EQUAL TOpEQUALS SIGNlNOT EQUAL TOmTILDE OPERATORuOR EQUAL TOa WITH DOT ABOVE",
  "zbWITH NOT EQUAL TOuPRECEDING SOLIDUSrWITH DOTdMULTIPLICATION SIGN BELOWzPLUS SIGN BELOW",
  "yVILLAINkRFACE INTEGRALmEReSHIcPENSION RAILWAYrWANbSH AMPERSAND ORNAMENTwIMMERfUNG DASH",
  "jYLOTI NAGRI LETTER AbBHOcOcCHOcOcDDHOcOcHOcOcEbGHOcOcHOcIbJHOcOcKHOcOcLOcMOcNOcObPHOcOcRObRO",
  "dSOcTHOcObTHOcOdUiPOETRY MARK-1b2b3b4nSIGN ALTERNATE HASANTAqNUSVARAiDVISVARAiHASANTA",
  "mVOWEL SIGN AbEbIbOOcUxMBOL FOR ACKNOWLEDGElBACKSPACEiELLeCANCELeRRIAGE RETURN",
  "pDATA LINK ESCAPEpELETEa FORM TWOnVICE CONTROL FOUReONEdTHREEeWOsEND OF MEDIUMgTEXT",
  "dRANSMISSIONa BLOCKxQUIRYgSCAPEgFILE SEPARATORnORM FEEDjGROUP SEPARATORpHORIZONTAL TABULATION",
  "vLINE FEEDjMARKS CHAPTERnNEGATIVE ACKNOWLEDGEsWLINEgULLeRECORD SEPARATORqSAMARITAN SOU",
  "RCE",
  "pHIFT INcOUTiPACEeTART OF HEADINGhTEXTmUBSTITUTEa FORM TWOsYNCHRONOUS IDLEqTYPE A ELECTRONICS",
  "sUNIT SEPARATORoVERTICAL TABULATIONzcMETRYgNaAGOGUEgCHRONOUS IDLEoRIAC ABBREVIATION MARK",
  "rBARREKHhCOLON SKEWED LEFTeRIGHTqNTRACTIONlDOTTED ZLAMA ANGULARhHORIZONTALxEND OF PARAGRAPH",
  "pSASA ABOVEfBELOWlFEMININE DOTmHARKLEAN ASTERISCUSkMETOBELUSjOBELUSoBASA ABOVEfBELOW",
  "g-ESASA DOTTEDrORIZONTAL COLONqLETTER ALAPHfBETHeDALATHfOTLESS DALATH RISHtEbFINAL SEMKATH",
  "nGAMALa GARSHUNIoHEaTHeKAPHeLAMADHgMALAYALAM BHAdJAcLLAbLAeNGAcNAbNAdYAdRAcSSAdTTAmIMdNUNdPE",
  "aRSIAN BHETHfDHALATHhGHAMALoQAPHeREVERSED PEkISHeSADHEeEMKATHgHINdOGDIAN FEcKHAPHfZHAIN",
  "mUPERSCRIPT ALAPHrTAWcETHa GARSHUNInWAWdYUDHa HEhZAINlMUSICfOBLIQUE LINE ABOVEfBELOW",
  "sPTHAHA ABOVEfBELOWfDOTTEDnQUSHSHAYAjRBASA ABOVEfBELOWkUKKAKHAhWAHAfSUBLINEAR COLON",
  "a SKEWED LEFTeRIGHTsFULL STOPrPRALINEAR COLONa SKEWED LEFTrFULL STOPvTHREE DOTS ABOVEfBELOW",
  "pWO VERTICAL DOTS ABOVEfBELOWxZQAPHA ABOVEfBELOWfDOTTEDqNGEhT-REXdSHIRTgAB",
  "aLE TENNIS PADDLE AND BALLzbCOcG AMPERSANDiPOSTROPHEjSTERISKiCIRCUMFLEX ACCENTqOLONdMMA",
  "bERCIAL ATnDIGIT EIGHTfFIVEdOUReNINEeONEdSEVENeIXdTHREEeWOdZEROjOLLAR SIGNlEQUALS SIGN",
  "kXCLAMATION MARKqFULL STOPjGRAVE ACCENTkEATER-THAN SIGNrHYPHEN-MINUSmLATIN CAPITAL LETTER AbB",
  "bCbDbEbFbGbHbIbJbKbLbMbNbObPbQbRbSbTbUbVbWbXbYbZqSMALL LETTER AbBbCbDbEbFbGbHbIbJbKbLbMbNbObP",
  "bQbRbSbTbUbVbWbXbYbZtEFT CURLY BRACKETnPARENTHESISlSQUARE BRACKETrSS-THAN SIGNnOW LINE",
  "iNUMBER SIGNlPERCENT SIGNlLUS SIGNjQUESTION MARKlOTATION MARKoREVERSE SOLIDUS",
  "oIGHT CURLY BRACKETnPARENTHESISlSQUARE BRACKETuSEMICOLONiOLIDUSgPACEfTILDEfVERTICAL LINE",
  "oALOG LETTER AaRCHAIC RAkBAcDAcGAcHAcIbKAcLAcMAcNAbGAdPAcRAcSAcTAcUbWAcYAjSIGN PAMUDPODiVIRAMA",
  "lVOWEL SIGN IbUrBANWA LETTER AbBAcDAcGAcIbKAcLAcMAcNAbGAdPAcSAcTAcUbWAcYAjVOWEL SIGN IbU",
  "tI LE LETTER AaIbUEdEaEbHcFAcHAcIbKAbHAdLAcMAcNAbGAdOaOcPAbHAdQAcSAcTAbHAcONE-2b3b4b5b6fSAbHA",
  "eUaEcVAcXAcYAmTHAM COMBINING CRYPTOGRAMMIC DOTzNSONANT SIGN BAcFINAL NGAjHIGH RATHA OR LOW PA",
  "uLA TANG LAIkOW PAgMAbEDIAL LAcRAjSArHORA DIGIT EIGHTfFIVEdOUReNINEeONEdSEVENeIXdTHREEeWOdZERO",
  "pLETTER AbBAcDAcEEcGREAT SAiHIGH CAbHAdFAcHAcKAbHAcXAdPAbHAdRATHAfSAbHAcSAdTAbHAdYAhIaIcLAaE",
  "cLAcOW CAbHAdFAcHAcKAbHAcXAdPAbHAdRATHAfSAcTAbHAdYAfUEdMAcNAbGAcYAdOOcRAaNAcTAdUEdUaUcWA",
  "jSIGN CAANGfDOKMAIgHANGdOYdKAANaKUUgEOWdHUEN TONE-3b4b5h-LUE KARANpMAI KANGa LAIiSAMdYAMOK",
  "jRA HAAMgEVERSED ROTATED RANAvSAKOTdTKAANaKUUiWANfTONE-1b2gWIANGaWAAKoTHAM DIGIT EIGHTfFIVE",
  "dOUReNINEeONEdSEVENeIXdTHREEeWOdZEROpVOWEL SIGN AaAbEbIcEbIaIcMAI SAThOaA ABOVEfBELOWhObY",
  "cTALL AAgHAM AIhUaEbUaEtVIET LETTER HIGH BOcCHOcOcDOcFOcGOcHOcKHHOcOcOcLOcMOcNGOcObYOdObPHOcO",
  "cROcSOcTHOcOcVOcYOhLOW BOcCHOcOcDOcFOcGOcHOcKHHOcOcOcLOcMOcNGOcObYOdObPHOcOcROcSOcTHOcOcVOcYO",
  "nMAI KANGdHITiSYMBOL HO HOIgKOI KOIfNdNUENGfSAMkTONE MAI EKcNUENGfSONGeTHOmVOWEL AAbMbNbUEcYcE",
  "bIaAcObUaAbEaAqKEOUT BOXiRI ABBREVIATION SIGNrDIGIT EIGHTfFIVEdOUReNINEeONEdSEVENeIXdTHREEeWO",
  "dZEROkLETTER AaAbIbRCHAIC KHAkUcBAbHAdCAbHAdDAbDAbHAdHAdEbGAbHAdHAcIaIcJAbHAdKAbHAdLAcMAcNAbGA",
  "cNAcYAdObPAbHAdRAbRAdSAbHAdTAbHAcTAbHAeUaUcVAcYAjSIGN ANUSVARAiNUKTAfVIRAMAeSARGA",
  "mVOWEL SIGN AAbIbUcEbIaIcObUaUrLLY MARK FIVEeONEmMALEdIL AND ODD SIGNlS ABOVE SIGN",
  "mU LENGTH MARKoCREDIT SIGNkURRENT SIGNmDAY SIGNhEBIT SIGNjIGIT EIGHTfFIVEdOUReNINEeONEdSEVEN",
  "eIXdTHREEeWOdZEROjRY CULTIVATION SIGNuFRACTION DOWNSCALING FACTOR KIIZHyONE EIGHTHbIETHjFIFTH",
  "eORTIETHiHALF-1b2gONE-HUNDRED-AND-SIXTIETHyQUARTERhSIXTEENTH-1b2hY-FOURTHmTENTHeHIRTY-SECOND",
  "lREE-HUNDRED-AND-TWENTIETHzbWENTIETHnTHREE EIGHTIETHSkQUARTERSiSIXTEENTHSgY-FOURTHSnTWENTIETHS",
  "zIN POSSESSION SIGNsLAND SIGNiETTER AaAbIbUcCAcEaEcHAcIaIcJAcKAcLAbLAbLAeMAcNAbGAcNAbNAdYAdOaO",
  "cPAcRAbRAdSAbHAcSAdTAbTAdUaUcVAcYAjMONTH SIGNkNUMBER ONE HUNDREDhTHOUSANDmSIGNeTENkOM",
  "cPUNCTUATION END OF TEXTxRUPEE SIGNkSALT PAN SIGNmIGN AAZHAAKKUiNUSVARAiCEVITUgKAACUeURUNIeZHI",
  "fMUKKURUNIhTHALIYAhUVUZHAKKUlNELdPAARAMeNAMdTHAKKUhONdUZHAKKUhVAKAIYARAAiRAAKANhELIdIRAMA",
  "eSARGAlPENT SIGNjTARTING FROM SIGNsTOTAL SIGNjRADITIONAL CREDIT SIGNlNUMBER SIGNxVOWEL SIGN AA",
  "bIbUcEaEcIaIcOaOcUaUnWET CULTIVATION SIGNuYEAR SIGNnNABATA TREEkGERINEfSA DIGIT EIGHTfFIVEdOUR",
  "eNINEeONEdSEVENeIXdTHREEeWOdZEROkLETTER ACbQbWCbQbXbZcXbZcBAcCAbHAdDAbHAdECbQbXbZcFAbINAL NG",
  "iGAbHAdHAbTAbTAeICbQbXbZcKAbHAdLAbONG UEXiMAbCbQbXbZcNAbGAcHAcYAdOCbQbXbZcPAbHAdRAcSAbHA",
  "bORT AWXdUEZjTAbHAcSAdUCbECbQbXbZcICbQbUCbQbXbZcXbZcQbXbZcVCbQbXbZcWAcXAcYAcZA",
  "mUT COMPONENT-001b2b3b4b5b6b7b8b9c10b1b2b3b4b5b6b7b8b9c20b1b2b3b4b5b6b7b8b9c30b1b2b3b4b5b6b7b8",
  "b9c40b1b2b3b4b5b6b7b8b9c50b1b2b3b4b5b6b7b8b9c60b1b2b3b4b5b6b7b8b9c70b1b2b3b4b5b6b7b8b9c80b1b2",
  "b3b4b5b6b7b8b9c90b1b2b3b4b5b6b7b8b9d100b1b2b3b4b5b6b7b8b9c10b1b2b3b4b5b6b7b8b9c20b1b2b3b4b5b6",
  "b7b8b9c30b1b2b3b4b5b6b7b8b9c40b1b2b3b4b5b6b7b8b9c50b1b2b3b4b5b6b7b8b9c60b1b2b3b4b5b6b7b8b9c70",
  "b1b2b3b4b5b6b7b8b9c80b1b2b3b4b5b6b7b8b9c90b1b2b3b4b5b6b7b8b9d200b1b2b3b4b5b6b7b8b9c10b1b2b3b4",
  "b5b6b7b8b9c20b1b2b3b4b5b6b7b8b9c30b1b2b3b4b5b6b7b8b9c40b1b2b3b4b5b6b7b8b9c50b1b2b3b4b5b6b7b8b9",
  "c60b1b2b3b4b5b6b7b8b9c70b1b2b3b4b5b6b7b8b9c80b1b2b3b4b5b6b7b8b9c90b1b2b3b4b5b6b7b8b9d300b1b2b3",
  "b4b5b6b7b8b9c10b1b2b3b4b5b6b7b8b9c20b1b2b3b4b5b6b7b8b9c30b1b2b3b4b5b6b7b8b9c40b1b2b3b4b5b6b7b8",
  "b9c50b1b2b3b4b5b6b7b8b9c60b1b2b3b4b5b6b7b8b9c70b1b2b3b4b5b6b7b8b9c80b1b2b3b4b5b6b7b8b9c90b1b2",
  "b3b4b5b6b7b8b9d400b1b2b3b4b5b6b7b8b9c10b1b2b3b4b5b6b7b8b9c20b1b2b3b4b5b6b7b8b9c30b1b2b3b4b5b6",
  "b7b8b9c40b1b2b3b4b5b6b7b8b9c50b1b2b3b4b5b6b7b8b9c60b1b2b3b4b5b6b7b8b9c70b1b2b3b4b5b6b7b8b9c80",
  "b1b2b3b4b5b6b7b8b9c90b1b2b3b4b5b6b7b8b9d500b1b2b3b4b5b6b7b8b9c10b1b2b3b4b5b6b7b8b9c20b1b2b3b4",
  "b5b6b7b8b9c30b1b2b3b4b5b6b7b8b9c40b1b2b3b4b5b6b7b8b9c50b1b2b3b4b5b6b7b8b9c60b1b2b3b4b5b6b7b8b9",
  "c70b1b2b3b4b5b6b7b8b9c80b1b2b3b4b5b6b7b8b9c90b1b2b3b4b5b6b7b8b9d600b1b2b3b4b5b6b7b8b9c10b1b2b3",
  "b4b5b6b7b8b9c20b1b2b3b4b5b6b7b8b9c30b1b2b3b4b5b6b7b8b9c40b1b2b3b4b5b6b7b8b9c50b1b2b3b4b5b6b7b8",
  "b9c60b1b2b3b4b5b6b7b8b9c70b1b2b3b4b5b6b7b8b9c80b1b2b3b4b5b6b7b8b9c90b1b2b3b4b5b6b7b8b9d700b1b2",
  "b3b4b5b6b7b8b9c10b1b2b3b4b5b6b7b8b9c20b1b2b3b4b5b6b7b8b9c30b1b2b3b4b5b6b7b8b9c40b1b2b3b4b5b6b7",
  "b8b9c50b1b2b3b4b5b6b7b8b9c60b1b2b3b4b5b6b7b8nITERATION MARKtPE CARTRIDGEjDRIVEiURUSeXI",
  "dEACUP WITHOUT HANDLEsPOTdR-OFF CALENDARnDROP-BARBED RIGHTWARDS ARROWxSPOKED ASTERISKwDDY BEAR",
  "iLEPHONE LOCATION SIGNnON TOP OF MODEMpRECEIVERa WITH PAGEpORDERiSIGNkSCOPEfVISION",
  "hUGU AI LENGTH MARKoDIGIT EIGHTfFIVEdOUReNINEeONEdSEVENeIXdTHREEeWOdZERO",
  "kFRACTION DIGIT ONE FOR EVEN POWERS OF FOURtODD POWERS OF FOURzbTHREE FOR EVEN POWERS OF FOUR",
  "tODD POWERS OF FOURzcWO FOR EVEN POWERS OF FOURtODD POWERS OF FOUR",
  "zbZERO FOR ODD POWERS OF FOURzrLENGTH MARKjTTER AaAbIbUcBAbHAdCAbHAdDAbDAbHAdHAcZAdEaEcGAbHA",
  "dHAcIaIcJAbHAdKAbHAdLAbLAbLAeMAcNAaKAARA POLLUmGAcNAcYAdOaOcPAbHAdRAbRAbRAeSAbHAcSAdTAbHAcSA",
  "cTAbHAeUaUcVAbOCALIC LaLcRaRkYAjSIGN ANUSVARAhVAGRAHAiCANDRABINDUkOMBINING ANUSVARA ABOVE",
  "oCANDRABINDU ABOVEzcNUKTAfSIDDHAMhTUUMUfVIRAMAeSARGAmVOWEL SIGN AAbIbUcEaEcIaIcOaOcUaU",
  "cVOCALIC LaLcRaRzbNGE SIGNhNIS RACQUET AND BALLuTcST TUBEhTRAGRAM FOR ACCUMULATIONlDVANCE",
  "gGGRAVATIONkSCENTgBARRIERgOLD RESOLUTIONoRANCHING OUTnCENTREfHANGEfLOSED MOUTHhNESSfURE",
  "gOMPLETIONfIANCEiNSTANCYgTACTdENTIONgRARIETYlDARKENINGiECISIVENESSkFECTIVENESS OR DISTORTION",
  "zPARTUREiIFFICULTIESkMINISHMENTjMINGfVERGENCEjOUBTeUTIESgEASEdMBELLISHMENTmNCOUNTERSiDEAVOUR",
  "hLARGEMENTkTERNITYhXHAUSTIONkFAILUREgLIGHTfOLLOWINGhSTERINGiULL CIRCLEhNESSiGATHERINGa IN",
  "lOING TO MEETmREATNESSiUARDEDNESSlHARDNESShOLDING BACKmINCREASEgNERfJOYdKEEPING SMALLmINSHIP",
  "hLABOURINGhW OR MODELlEGIONgMASSINGgEASUREgIREDfON THE VERGElPPOSITIONkPACKINGfTTERN",
  "gENETRATIONkURITYgREACHdLEASEfSIDENCEfSTANCEhPONSEhITUALgSEVERANCEiINKINGgTOPPAGEfVEdRENGTH",
  "iUNITYfVASTNESS OR WASTINGtWAITINGfTCHfYOUTHFULNESSzHAANA AABAAFILIiBAFILIhEBEFILIgEBEEFILI",
  "iYBEYFILIjIBIFILIhLETTER AINUdLIFUfBAAdCHAVIYANIjDAADHUeVIYANIhHAALUgFAAFUfGAAFUeHAINU",
  "fNAVIYANIjHAAcHAAeJAVIYANIiKAAFUeHAAeLAAMUeHAVIYANIjMEEMUfNAAcOONUfPAVIYANIiQAAFUfRAAdSAADHU",
  "fEENUeHAVIYANIhEENUgTAVIYANIhHAAaLUfObTAAeVAAVUfWAAVUfYAAdZAAbVIYANIhOjOABOAFILIiBOFILI",
  "gOBOOFILIjSUKUNfUBUFILIlI CHARACTER ANGKHANKHUkBO BAIMAIjCHO CHANaGdINGdOEiDO CHADAfDEKgFO FA",
  "aNeNGMANhHO HIPdNOKHUKjKHO KHAIcONcUATdWAIfRAKHANGiMUTfO KAIgLAKKHANGYAOkO CHULAfLINGgU",
  "cMAI CHATTAWAiEKcHAN-AKATiTHOcRIeTAIKHUgYAMOKhO MAfNGO NGUgIKHAHIThO NENcUfO ANGfPAIYANNOI",
  "iHINTHUfO PHANcUNGfSAMPHAOkO PLAgRO RUAfUcSARA AaAbEbI MAIMALAIeUANjMcEbIaIcObUaEaEcUgO RUSI",
  "eSALAdObUAgTHANTHAKHATjO NANGMONTHOkPHUTHAOhTHAHANdNcONGdUNGiO PATAKfTAOgWO WAENhYAMAKKAN",
  "hO YAKcINGqURRENCY SYMBOL BAHTuDIGIT EIGHTfFIVEdOUReNINEeONEdSEVENeIXdTHREEeWOdZERO",
  "nERE DOES NOT EXISToEXISTShFOREfMODYNAMIChMETERjIN GREEK CROSSlSALTIREgPACEgKING FACE",
  "kRD PLACE MEDALpONG SANDALjUGHT BALLOONnREE BUTTON MOUSEmCONSECUTIVE EQUALS SIGNS",
  "yDIMENSIONAL ANGLEqOT PUNCTUATIONpLEFTWARDS ARROWSpINES CONVERGING LEFTeRIGHT",
  "wNETWORKED COMPUTERStPOINTED BLACK STARsRAYS ABOVEfBELOWfLEFTeRIGHTjIGHTWARDS ARROWS",
  "rSPEECH BUBBLESp-D BOTTOM-LIGHTED RIGHTWARDS ARROWHEAD",
  "zkLEFT-LIGHTED DOWNWARDS EQUILATERAL ARROWHEADztRIGHT-LIGHTED UPWARDS EQUILATERAL ARROWHEAD",
  "zsTOP-LIGHTED LEFTWARDS EQUILATERAL ARROWHEADzgRIGHTWARDS ARROWHEADjEQUILATERAL ARROWHEAD",
  "zvEM DASHhPER-EM SPACEqUMBS DOWN SIGNjUP SIGNlNDER CLOUD AND RAINpSTORM",
  "lIBETAN ASTROLOGICAL SIGN -KHYUD PAjSDONG TSHUGSlGRA GCAN -CHAR RTAGS",
  "zoCANTILLATION SIGN CANG TE-UjHEAVY BEATkLIGHT BEATkSBUB -CHALzdDIGIT EIGHTfFIVEdOUR",
  "eHALF EIGHTfFIVEdOUReNINEeONEdSEVENeIXdTHREEeWOdZEROjNINEeONEdSEVENeIXdTHREEeWOdZEROkKU RU KHA",
  "a BZHI MIG CANwLETTER -AcAbBAbHAdCAbHAdDAbDAbHAdHAcZAbHAeFIXED-FORM RAnGAbHAdHAcJAcKAbHAcKA",
  "cSSAeLAcMAcNAbGAcNAcYAdPAbHAdRAbRAdSAbHAcSAdTAbHAcSAbHAdTAbHAeWAcYAcZAbHA",
  "jOGOTYPE SIGN CHAD RTAGSkLHAG RTAGSyMARK ANG KHANG GYAScONoBKA- SHOG GI MGO RGYANmYIG MGO",
  "qSDUS RTAGSjKA- SHOG GI MGO RGYANuUR YIG MGOnCARET -DZUD RTAGS BZHI MIG CANmME LONG CAN",
  "xYIG MGO PHUR SHAD MAzHE MGOgLOSING BRDA RNYING YIG MGO SGAB MAzcYIG MGO SGAB MA",
  "xDELIMITER TSHEG BSTARvGTER TSHEGfYIG MGO -UM GTER TSHEG MAnRNAM BCAD MAqTRUNCATED A",
  "xUG RTAGS GYAScONoHALANTAhINITIAL BRDA RNYING YIG MGO MDUN MAzcYIG MGO MDUN MA",
  "vTERSYLLABIC TSHEGtLEADING MCHAN RTAGStMNYAM YIG GI MGO RGYANwNGAS BZUNG NYI ZLAhSGOR RTAGS",
  "uYIS SHADeTSHEGa SHADpPALUTAgRGYA GRAM SHADnIN CHEN SPUNGS SHADuSBRUL SHADjHAD",
  "eTRAILING MCHAN RTAGStSA -PHRUhHEG SHADkYIG MGO TSHEG SHAD MAzbSIGN GRU CAN RGYINGS",
  "lMED RGYINGSpINVERTED MCHU CANrLCE TSA CANjI RTAGSjMAR TSHESiCHU CANiNYI ZLA NAA DA",
  "oRDEL DKAR GCIGdNYISeSUMeRDEL NAGnNAG GCIGdNYISeSUMeRDEL DKARrJES SU NGA ROnNAM BCADjSNA LDAN",
  "iYANG RTAGSiR TSHESnUBJOINED LETTER -AcAbBAbHAdCAbHAdDAbDAbHAdHAcZAbHAeFIXED-FORM RAcWAcYAnGA",
  "bHAdHAcJAcKAbHAcSSAeLAcMAcNAbGAcNAcYAdPAbHAdRAcSAbHAcSAdTAbHAcSAbHAdTAbHAeWAcYAcZAbHA",
  "kSIGN INVERTED MCHU CANrLCE TSA CANlMCHU CANwYLLABLE OMjMBOL DRIL BUhNOR BUa BZHI -KHYIL",
  "lGSUM -KHYILlNYIS -KHYILsPADMA GDANjHUR PAhRDO RJEa RGYA GRAMyVOWEL SIGN AAcEaEcIaIcOaO",
  "cREVERSED IaIlUaUcVOCALIC LaLcRaRzcCKETeE OVER INFINITYpFINAGH CONSONANT JOINER",
  "qLETTER AHAGGAR YAZHlYER YAGHjBERBER ACADEMY YAHbJsTAWELLEMET YAZnUAREG YAGHbNcHbKaHcNGcQbZH",
  "lYAaAbBaHcCHcDaDaHcHcFbGaHaHdHaHcJbKaHaHdLbMbNbPbQbRaRcSaHbScTaHbTcVbWbYbZaHbZdEaYcIbObU",
  "jMODIFIER LETTER LABIALIZATION MARKzjSEPARATOR MARKvGERa FACEhHT TRIFOLIATE SNOWFLAKEyLDE",
  "a OPERATORa ABOVE LEFTWARDS ARROWpRIGHTWARDS ARROWwWITH DOT ABOVEjRISING DOTSzWITH DOT ABOVE",
  "fBELOWjRING ABOVEtMER CLOCKhS WITH LEFT HALF BLACKpRIGHT HALF BLACKzNY",
  "a TWO DOTS OVER ONE DOT PUNCTUATIONzlRED FACEhHUTA ABBREVIATION SIGNqNJIeDIGIT EIGHTfFIVEdOUR",
  "eNINEeONEdSEVENeIXdTHREEeWOdZEROkGVANGfLETTER AaAbIbUcBAbHAdCAbHAdDAbDAbHAdHAdEbGAbHAdHAcIaI",
  "cJAbHAdKAbHAdLAcMAcNAbGAcNAcYAdObPAbHAdRAcSAbHAcSAdTAbHAcTAbHAeUaUcVAbOCALIC LaLcRaRkYAjOM",
  "cSIGN ANUSVARAhVAGRAHAiCANDRABINDUlNUKTAfVIRAMAeSARGAmVOWEL SIGN AAbIbUcEbIaIcObSHORT EbOhUaU",
  "cVOCALIC LaLcRaRzbONIAN SIGN CAPITAL ETkETpOILETeKYO TOWERjMATOeNGUEeOLBOXeTHaBRUSH",
  "iP ARC ANTICLOCKWISE ARROWa WITH PLUSzeCLOCKWISE ARROW WITH MINUSzfCURLY BRACKET",
  "nHALF BLACK CIRCLEmINTEGRALiLEFT PARENTHESISqRIGHT PARENTHESISrSECTION SIGNpTdLEFT CORNERfROP",
  "eHALF BRACKETrPARENTHESISlRIGHT CORNERfROPeHALF BRACKETsSQUARE BRACKEToTORTOISE SHELL BRACKET",
  "wWITH UPWARDS ARROW ABOVEzbRTOISE SHELL BRACKETED CJK UNIFIED IDEOGRAPH-4E09c8Ce52DDdB89e6253",
  "d557d72Ce70B9d6D7zbLATIN CAPITAL LETTER SzuTAL RUNOUTjO LETTER AaEcBAbREATHY AEcEaOcIaUkCHAdDA",
  "cEaOcGAcHAcIaUcJAcKAcLAcMAcNAbGAdObPAcRAcSAcTAcUbWAcYAjSIGN RISING TONEuRACKBALLfTOR",
  "eDE MARK SIGNmINcMa CARfNSPLUTOfVERSAL INTERSECTIONwIANGLE WITH DOT ABOVEjROUNDED CORNERS",
  "pSERIFS AT BOTTOMqUNDERBARo-HEADED RIGHTWARDS ARROWzbULAR BULLETgFLAG ON POSTmRULERnCOLON",
  "fDENT EMBLEMlGRAM FOR EARTHfFIREeHEAVENgLAKEeMOUNTAINiTHUNDERhWATEReINDnPLE COLON OPERATOR",
  "oDAGGERgHORIZONTAL BAR WITH DOUBLE VERTICAL STROKEwTRIPLE VERTICAL STROKEzrINTEGRAL",
  "iNESTED GREATER-THANmLESS-THANqPLUSdRIMEfSOLIDUS BINARY RELATIONxTILDE",
  "fVERTICAL BAR BINARY RELATIONpDELIMITERjRIGHT TURNSTILEpWITH HORIZONTAL STROKEzpOLLaEYBUShPHY",
  "cICAL DRINKfFISHlUEa LIGHT MOON ARTArMPETgUGRIK SIGNjLIPdMBLER GLASSlRKEYcISH LIRA SIGN",
  "oNED AMPERSANDiNGLEfBLACK PENTAGONiSHOGI PIECErCAPITAL FiOMMAfDAGGERfIGIT THREEeWO",
  "jGREEK SMALL LETTER IOTAxNORTH EAST POINTING LEAFsWEST POINTING LEAFwT SIGNiOK HAND SIGN",
  "mSANS-SERIF CAPITAL GbLbYtEMICOLONiMALL FgOUTH EAST POINTING LEAFsWEST POINTING LEAF",
  "yWHITE SHOGI PIECEvTLEfWELVE POINTED BLACK STARxISTED RIGHTWARDS ARROWS",
  "xO ASTERISKS ALIGNED VERTICALLYzdBUTTON MOUSEmCONSECUTIVE EQUALS SIGNSyDOT LEADERgPUNCTUATION",
  "mS OVER ONE DOT PUNCTUATIONzeHEARTSgINTERSECTING LOGICAL ANDdORxJOINED SQUARES",
  "oLOGICAL AND OPERATORmOR OPERATORtMEN HOLDING HANDSrSPEECH BUBBLESoWOMEN HOLDING HANDS",
  "u-EM DASHlUGARITIC LETTER AINcLPAeBETAeDELTAeHALeGAMLAeHAINfHOaTAeIbKAFcHAdLAMDAfMEMdNUNdPU",
  "cQOPAeRASHAfSADEcMKAeHINdSUdTETcHANNAfOcUbWOcYODdZETAdUjWORD DIVIDERuMBRELLAa ON GROUND",
  "jWITH RAIN DROPSxNAMUSED FACElCERTAINTY SIGNoDERTIEfO SYMBOLjICORN FACEjON",
  "a ABOVE BAR ABOVE INTERSECTIONwINTERSECTIONsBESIDE AND JOINED WITH UNIONzdWITH LOGICAL OR",
  "kMINUS SIGNkOVERBARpT SEPARATORkED SYMBOLkVERSAL RECYCLING SYMBOLyMARRIED PARTNERSHIP SYMBOL",
  "zcP ARROW THROUGH CIRCLEpHEADa BETWEEN TWO HORIZONTAL BARSzcIN A RECTANGLE BOX",
  "zdBARB LEFT DOWN BARB LEFT HARPOONmRIGHT HARPOONzdRIGHT DOWN BARB LEFT HARPOONmRIGHT HARPOON",
  "zjDOWN ARROWa WITH BASEpBLACK ARROWlDOUBLE ARROWmSANS-SERIF ARROWqTRIANGLE-HEADED ARROW",
  "vWHITE ARROWqFISH TAILjRIGHT DIAGONAL ELLIPSISxTACKa WITH CIRCLE ABOVEx-POINTING AIRPLANE",
  "iMILITARY AIRPLANErRED TRIANGLEmSMALL AIRPLANEiRED TRIANGLEsTRIANGLE WITH LEFT HALF BLACK",
  "pRIGHT HALF BLACKzpPER AND LEFT AND LOWER TRIANGULAR THREE QUARTERS BLOCK",
  "zuOWER ONE EIGHTH BLOCKqTRIANGULAR HALF BLOCKzcRIGHT AND LOWER TRIANGULAR THREE QUARTERS BLOCK",
  "zzbBLADE SCISSORSoFIVE EIGHTHS BLOCKsHALF BLOCKa AND LOWER HALF INVERSE MEDIUM SHADEzqCIRCLE",
  "gINVERSE MEDIUM SHADE AND LOWER HALF BLOCKziWHITE CIRCLEuMEDIUM SHADE",
  "rLEFT BLOCK DIAGONAL LOWER CENTRE TO LOWER MIDDLE RIGHTsUPPER MIDDLE RIGHTmRIGHT",
  "vLEFT TO LOWER MIDDLE RIGHTsUPPER CENTREgMIDDLE RIGHTzbMIDDLE LEFT TO UPPER CENTRE",
  "gMIDDLE RIGHTmRIGHTzhUPPER MIDDLE LEFT TO UPPER CENTREgRIGHTzwCORNER WITH DOT",
  "pOR LOWER RIGHT CURLY BRACKET SECTIONzlQUADRANT CIRCULAR ARCvTO LOWER RIGHT FILLsRIANGLE",
  "cULAR MEDIUM SHADEzdONE EIGHTH BLOCKmQUARTER BLOCK",
  "rRIGHT BLOCK DIAGONAL LOWER MIDDLE LEFT TO LOWER CENTREgRIGHT",
  "zhUPPER CENTRE TO LOWER MIDDLE RIGHTmRIGHTlUPPER MIDDLE RIGHTzdLEFT TO LOWER CENTRE",
  "gMIDDLE RIGHTsUPPER MIDDLE RIGHTzbMIDDLE LEFT TO LOWER CENTREgMIDDLE RIGHTmRIGHT",
  "zwDROP-SHADOWED WHITE SQUAREzbOR LOWER LEFT CURLY BRACKET SECTIONzkPENCIL",
  "gQUADRANT CIRCULAR ARCvSHADOWED WHITE CIRCLEgSQUAREvTO LOWER LEFT FILLrRIANGLE",
  "cULAR MEDIUM SHADEzeSEVEN EIGHTHS BLOCKtTHREE EIGHTHS BLOCKnQUARTERS BLOCK",
  "tRIANGULAR ONE QUARTER BLOCKzhSIDE-DOWN FACEoWARDS ANCORAfRROWa AND RIGHT ONE EIGHTH BLOCK",
  "zbFROM BARiLEFTWARDS OF DOWNWARDS ARROWzdTO BARgWITH DOUBLE STROKEnEQUILATERAL ARROWHEAD",
  "vHORIZONTAL STROKErLARGE TRIANGLE ARROWHEADyMEDIUM TRIANGLE ARROWHEADzNOTCHED TAIL",
  "mSMALL EQUILATERAL ARROWHEADvTRIANGLE ARROWHEADyTIP LEFTWARDSjRIGHTWARDSzBLACK ARROW",
  "fCIRCLED WHITE ARROWzCOMPRESSED ARROWqDASHED ARROWlOUBLE ARROWmFINGER-POST ARROW",
  "rHARPOON WITH BARB LEFT BESIDE DOWNWARDS HARPOON WITH BARB RIGHT",
  "ziUPWARDS HARPOON WITH BARB RIGHTznFROM BARiTO BARhWARDSjRIGHT FROM BARiTO BARhWARDS",
  "zcEAVY ARROWfCOMPRESSED ARROWwPAIRED ARROWSnQUADRUPLE ARROWpROCKETgSANS-SERIF ARROW",
  "pQUARED ARROWnTRIANGLE ARROWHEADk-HEADED ARROWa LEFTWARDS OF DOWNWARDS TRIANGLE-HEADED ARROW",
  "ztTO BARgWITH BOLD SHAFTkDOUBLE HORIZONTAL STROKEyHEAVY SHAFTlLONG TIP LEFTWARDSjRIGHTWARDS",
  "tMEDIUM SHAFTmNARROW SHAFTmVERY HEAVY SHAFTzcDASHED ARROWmPAIRED ARROWSzbPLE ARROW",
  "lWO HEADED ARROWn-HEADED ARROW FROM SMALL CIRCLErWITH TRIANGLE ARROWHEADSzqWHITE ARROW",
  "a FROM BARa WITH HORIZONTAL BARzdON PEDESTALa WITH HORIZONTAL BARoVERTICAL BAR",
  "zeWITHIN TRIANGLE ARROWHEADzgDOUBLE ARROWa ON PEDESTALzmRANUSfScVAI COMMAfDIGIT EIGHTfFIVEdOUR",
  "eNINEeONEdSEVENeIXdTHREEeWOdZEROkFULL STOPjQUESTION MARKnSYLLABLE AaNcBAbEaEcHAbEaEcIbOaOcUcI",
  "bOaOcUcCAbEaEcIbOaOcUcDAbEaEcHAbEaEcHAbEaEcIbOaOcUcIbOaOcUcIbOaOcUcEaEaNcNcFAbEaEcIbOaOcUcGA",
  "bBAbEaEbNcIbOaNbOcUcEaEbNcIbOaOcUcHAaNcEaEbNcIaNcOaNbOcUaNdIaNcJAbEaEcIbOaOcUcKAaNcEaEcIbOaO",
  "cPAaNcEaEbNcIbOaOcUcUcLAbEaEbNGTHENERjIbOaOcUcMAbBAbEaEcIbOaOcUcEaEcGBAbEaEcIbOaOcUdIbOaOcUcNA",
  "bDAbEaEcIbOaLE DOcFAcKAcMAcSOOgOcUcEaEcGaANcENcGAbEaEbNcIbOaOcUcONdIbJAbEaEcIbOaOcUcOaOcUbYAbE",
  "aEcIbOaOcUdOaNbOaNdPAbEaEcIbOaOcUcRAbEaEcIbOaOcUcSAbEaEcHAbEaEcIbOaOcUcIbOaOcUcTAbEaEcHAbEaEcI",
  "bOaOcUcIbOaOcUcUaNcVAbEaEcIbOaOcUcWAaNcEaEaNcNcIaNcOaNbOaNdUaNdYAbEaEcIbOaOcUcZAbEaEcHAbEaEcI",
  "bOaOcUcIbOaOcUjMBOL BANGeDANGdO-OcONGfFAAcEENGfJONGeKEENGeUNGeNIIdTAAcINGdONGnMPIRE",
  "fRIATION SELECTOR-1a0a0b1b2b3b4b5b6b7b8b9c1a0b1b2b3b4b5b6b7b8b9c2a0b1b2b3b4b5b6b7b8b9c3a0b1b2",
  "b3b4b5b6b7b8b9c4a0b1b2b3b4b5b6b7b8b9c5a0b1b2b3b4b5b6b7b8b9c6a0b1b2b3b4b5b6b7b8b9c7a0b1b2b3b4b5",
  "b6b7b8b9c8a0b1b2b3b4b5b6b7b8b9c9a0b1b2b3b4b5b6b7b8b9d2a0a0b1b2b3b4b5b6b7b8b9c1a0b1b2b3b4b5b6b7",
  "b8b9c2a0b1b2b3b4b5b6b7b8b9c3a0b1b2b3b4b5b6b7b8b9c4a0b1b2b3b4b5b6b7b8b9c5a0b1b2b3b4b5b6c6b7b8b9",
  "c3a0b1b2b3b4b5b6b7b8b9c4a0b1b2b3b4b5b6b7b8b9c5a0b1b2b3b4b5b6b7b8b9c6a0b1b2b3b4b5b6b7b8b9c7a0b1",
  "b2b3b4b5b6b7b8b9c8a0b1b2b3b4b5b6b7b8b9c9a0b1b2b3b4b5b6b7b8b9uECTOR OR CROSS PRODUCT",
  "vDIC SIGN ANUSVARA ANTARGOMUKHAmBAHIRGOMUKHAmUBHAYATO MUKHAoVAMAGOMUKHAa WITH TAIL",
  "zeRDHAVISARGAlTIKRAMAiDOUBLE ANUSVARA ANTARGOMUKHAzdHEXIFORM LONG ANUSVARAwJIHVAMULIYA",
  "lLONG ANUSVARAnNIHSHVASAjREVERSED VISARGA ANUDATTAiUDATTAwOTATED ARDHAVISARGA",
  "tTHANG LONG ANUSVARAuTIRYAKgUPADHMANIYAlVISARGA ANUDATTAa WITH TAILsSVARITAhUDATTAa WITH TAIL",
  "yYAJURVEDIC MIDLINE SVARITAzgTONE ATHARVAVEDIC INDEPENDENT SVARITAzhCANDRA ABOVEfBELOW",
  "mDOT BELOWhUBLE RING ABOVEkSVARITAoKARSHANAgTHAKA ANUDATTAqPRENKHA",
  "hRIGVEDIC KASHMIRI INDEPENDENT SVARITAzkNG ABOVEkSHARAfTHREE DOTS BELOWpRIPLE SVARITA",
  "nWO DOTS BELOWoYAJURVEDIC AGGRAVATED INDEPENDENT SVARITAzfINDEPENDENT SVARITA",
  "tKATHAKA INDEPENDENT SVARITAa SCHROEDERzzhRSICLEfTICAL BAR BESIDE RIGHT TRIANGLE",
  "vDOUBLE LEFT TURNSTILEvTRIPLE RIGHT TURNSTILEwWITH HORIZONTAL STROKEzbELLIPSISiFOUR DOTS",
  "jIDEOGRAPHIC ITERATION MARKzbKANA REPEAT MARKa LOWER HALFkUPPER HALFpWITH VOICED SOUND MARK",
  "a UPPER HALFzuLINEa EXTENSIONjWITH CIRCLE ABOVEfBELOWmMIDDLE DOTuMALE WITH STROKE SIGN",
  "vONE EIGHTH BLOCK-2b3b4b5b6b7sSIX DOTSiTAB KEYeULATIONa SETnILDEeRAFFIC LIGHTnZIGZAG LINE",
  "rY BOLD GREEK CROSSqHEAVY EIGHT POINTED BLACK STARsSPOKED ASTERISKvFIVE SPOKED ASTERISK",
  "uGREEK CROSSlREVERSE SOLIDUSpSALTIREgIX SPOKED ASTERISKsOLIDUShWHITE CIRCLEgSQUARE",
  "sMUCH GREATER-THANmLESS-THANrSTAeIBRATION MODEmCTORY HANDkDEO CAMERAgGAMEfCASSETTE",
  "lETNAMESE ALTERNATE READING MARK CAcNHAYzkWDATA SQUAREnOLINeRGOdTHKUQI CAPITAL LETTER AbBBEcE",
  "cCEbHEdDEbHEdEaIcFEcGAcHAbHAdIaJEdJEcKAcLAbLAdMEcNEbJEdObPEcQAcREcSEbHEdTEbHEdUbVEcXEcYbZE",
  "rSMALL LETTER AbBBEcEcCEbHEdDEbHEdEaIcFEcGAcHAbHAdIaJEdJEcKAcLAbLAdMEcNEbJEdObPEcQAcREcSEbHE",
  "dTEbHEdUbVEcXEcYbZExOIDED GREEK CROSSqLCANOeLEYBALLhUME INTEGRALoS1a0a0b1b2b3b4b5b6b7b8b9c1a0",
  "b1b2b3b4b5b6b7b8b9c2a0b1b2b3b4b5b6b7b8b9c3a0b1b2b3b4b5b6b7b8b9c4a0b1b2b3b4b5b6b7b8b9c5a0b1b2b3",
  "b4b5b6b7b8b9c6a0b1b2b3b4b5b6b7b8b9c7a0b1b2b3b4b5b6b7b8b9c8a0b1b2b3b4b5b6b7b8b9c9a0b1b2b3b4b5b6",
  "b7b8b9d2a0a0b1b2b3b4b5b6b7b8b9c1a0b1b2b3b4b5b6b7b8b9c2a0b1b2b3b4b5b6b7b8b9c3a0b1b2b3b4b5b6b7b8",
  "b9c4a0b1b2b3b4b5b6b7b8b9c5a0b1b2b3b4b5b6c6b7b8b9c3a0b1b2b3b4b5b6b7b8b9c4a0b1b2b3b4b5b6b7b8b9c5",
  "a0b1b2b3b4b5b6b7b8b9c6a0b1b2b3b4b5b6b7b8b9c7a0b1b2b3b4b5b6b7b8b9c8a0b1b2b3b4b5b6b7b8b9c9a0b1b2",
  "b3b4b5b6b7b8b9dTaScULCANUSfGAR FRACTION FIVE EIGHTHShSIXTHSkOUR FIFTHSlONE EIGHTHgFIFTHfHALF",
  "eNINTHfQUARTERhSEVENTHgIXTHfTENTHeHIRDjSEVEN EIGHTHSnTHREE EIGHTHShFIFTHSgQUARTERSnWO FIFTHS",
  "gTHIRDSkZERO THIRDSzcWAFFLEeNCHO DIGIT EIGHTfFIVEdOUReNINEeONEdSEVENeIXdTHREEeWOdZEROkLETTER A",
  "aAaNaGdNGcUcBAcCAcDAcEaNcFAcGAcHAcIaNGdJAcKAbHAdLAbLHAeMAcNAbGAcYAdOaNaGdPAbHAdRAcSAbHAdTAbHA",
  "cRAcSAdUaENdVAcWAcYAbIHdZAjNGUN SIGNjTONE KOIaNIfTUPaNIoING CRESCENT MOON SYMBOL",
  "uGIBBOUS MOON SYMBOLyRANG CITI CAPITAL LETTER AaMbNGcTcBUcDAcEaNNbYdGAcHARcIYOdOLOcRReIIcKO",
  "cNGAAdUNGeOaDDdPUcSIIcSUUeTTEdUCbUcVIYOeWIcYAbObUaJsDIGIT EIGHTfFIVEdOUReNINEeONEdSEVENeIX",
  "dTHREEeWOdZEROkNUMBER EIGHTYgFIFTYeORTYfNINETYgSEVENTYgIXTYfTENcHIRTYfWENTYnOMcSMALL LETTER A",
  "aMbNGcTcBUcDAcEaNNbYdGAcHARcIYOdOLOcRReIIcKOcNGAAdUNGeOaDDdPUcSIIcSUUeTTEdUCbUcVIYOeWIcYAbObU",
  "aJzNING SIGNkSTEBASKETjTCHcER BUFFALOhCLOSETgPOLOeWAVEfMELONiVE ARROW POINTING DIRECTLY LEFT",
  "eRIGHTzeDASHgING BLACK FLAGkHAND SIGNjWHITE FLAGoY DASHeLINEdOW LINEiOVERLINE",
  "lXING CRESCENT MOON SYMBOLuGIBBOUS MOON SYMBOLzEARY CAT FACEiFACEiDDING",
  "eGE-TAILED RIGHTWARDS ARROWzcIERSTRASS ELLIPTIC FUNCTIONzbGHT LIFTERlST SYRIAC CROSSqHALEdEEL",
  "a OF DHARMAkCHAIR SYMBOLpITE ARROW SHAFT WIDTH ONEdTWO THIRDSzdBULLETgCHESS BISHOP",
  "a ROTATED NINETY DEGREESoTWO HUNDRED SEVENTY DEGREESzrEQUIHOPPERa ROTATED NINETY DEGREESziKING",
  "a ROTATED NINETY DEGREESoTWO HUNDRED SEVENTY DEGREESzoNIGHTa ROTATED FORTY-FIVE DEGREES",
  "sNINETY DEGREESoONE HUNDRED THIRTY-FIVE DEGREESzgTHREE HUNDRED FIFTEEN DEGREES",
  "zdWO HUNDRED SEVENTY DEGREESpTWENTY-FIVE DEGREESzp-BISHOPgQUEENfROOKlPAWN",
  "a ROTATED NINETY DEGREESoTWO HUNDRED SEVENTY DEGREESzpQUEENa ROTATED NINETY DEGREES",
  "oTWO HUNDRED SEVENTY DEGREESzqROOKa ROTATED NINETY DEGREESoTWO HUNDRED SEVENTY DEGREES",
  "zpTURNED BISHOPgKINGdNIGHTgPAWNeQUEENfROOKqIRCLEa CONTAINING BLACK SMALL CIRCLE",
  "zeWITH DOT RIGHThWN ARROWkLOWER LEFT QUADRANTnRIGHT QUADRANTuTWO DOTSiUPPER LEFT QUADRANT",
  "nRIGHT QUADRANTzgLUB SUITiONCAVE-SIDED DIAMONDa WITH LEFTWARDS TICKoRIGHTWARDS TICKzrDIAMOND",
  "a CONTAINING BLACK MEDIUM DIAMONDoSMALL DIAMONDnVERY SMALL DIAMONDzkIN SQUAREjSUIT",
  "eWITH CENTRED DOTxOWN POINTING BACKHAND INDEXoINDEXfLEFT HAND INDEXz-POINTING SMALL TRIANGLE",
  "oTRIANGLEvRAUGHTS KINGeMANmEXCLAMATION MARK ORNAMENTzFLAGa WITH HORIZONTAL MIDDLE BLACK STRIPE",
  "znORETTEfWERfOUR POINTED CUSPeSTARqROWNING FACEnHARD SHELL FLOPPY DISKvEARTa SUIT",
  "hVY CHECK MARKkSALTIRE WITH ROUNDED CORNERSzhXAGONgORIZONTAL ELLIPSEqURGLASSjLARGE SQUARE",
  "kTIN CROSSkEFT LANE MERGEkPOINTING BACKHAND INDEXoINDEXp-POINTING POINTERhSMALL TRIANGLE",
  "oTRIANGLEvOZENGE CONTAINING BLACK SMALL LOZENGEznMEDIUM DIAMONDhLOZENGEhSMALL SQUARElQUAREfTAR",
  "kOON SELENAlNIBdPARALLELOGRAMmENNANTeTAGONiQUESTION MARK ORNAMENTwRECTANGLE",
  "iIGHT POINTING BACKHAND INDEXoINDEXp-POINTING PENTAGONhOINTERhSMALL TRIANGLEoTRIANGLExSCISSORS",
  "hESAME DOTjHOGI PIECEkMALL LOZENGEhSQUAREfTARiILING FACElPADE SUITjQUAREa BUTTON",
  "gCONTAINING BLACK MEDIUM SQUAREnSMALL SQUAREmVERY SMALL SQUAREzjWITH CENTRE VERTICAL LINE",
  "uLEFTWARDS TICKnOWER LEFT QUADRANTnRIGHT QUADRANTuRIGHTWARDS TICKoOUNDED CORNERS",
  "pUPPER LEFT QUADRANTnRIGHT QUADRANTuVERTICAL BISECTING LINEzjTARdUNa BEHIND CLOUDa WITH RAIN",
  "wWITH RAYSeSMALL CLOUDuTELEPHONEiOUCHTONE TELEPHONEsRAPEZIUM",
  "hIANGLE CONTAINING SMALL WHITE TRIANGLEzoWO-WAY LEFT WAY TRAFFICyUP POINTING BACKHAND INDEX",
  "oINDEXp-POINTING CHEVRONhSMALL TRIANGLEoTRIANGLEa WITH DOTzeVERTICAL BARdELLIPSEhRECTANGLE",
  "pY SMALL SQUAREs-FEATHERED RIGHTWARDS ARROWzgIDE-HEADED DOWNWARDS BARB ARROWkHEAVY BARB ARROW",
  "qLIGHT BARB ARROWqMEDIUM BARB ARROWrVERY HEAVY BARB ARROWzgLEFTWARDS BARB ARROW",
  "kHEAVY BARB ARROWqLIGHT BARB ARROWqMEDIUM BARB ARROWrVERY HEAVY BARB ARROW",
  "zgNORTH EAST BARB ARROWkHEAVY BARB ARROWqLIGHT BARB ARROWqMEDIUM BARB ARROW",
  "rVERY HEAVY BARB ARROWzbWEST BARB ARROWkHEAVY BARB ARROWqLIGHT BARB ARROWqMEDIUM BARB ARROW",
  "rVERY HEAVY BARB ARROWzhRIGHTWARDS BARB ARROWkHEAVY BARB ARROWqLIGHT BARB ARROW",
  "qMEDIUM BARB ARROWrVERY HEAVY BARB ARROWzhSOUTH EAST BARB ARROWkHEAVY BARB ARROW",
  "qLIGHT BARB ARROWqMEDIUM BARB ARROWrVERY HEAVY BARB ARROWzbWEST BARB ARROWkHEAVY BARB ARROW",
  "qLIGHT BARB ARROWqMEDIUM BARB ARROWrVERY HEAVY BARB ARROWzhUPWARDS BARB ARROWkHEAVY BARB ARROW",
  "qLIGHT BARB ARROWqMEDIUM BARB ARROWrVERY HEAVY BARB ARROWzoGGLY VERTICAL LINEsLTED FLOWER",
  "lND BLOWING FACEmCHIMEgOWdE GLASShKING FACEkRED KEYBOARDnJbOLF FACEhMANa WITH BUNNY EARS",
  "qS BOOTSfCLOTHEShHATdSANDALkENS SYMBOLlN SIGNgODcRD JOINERgSEPARATOR MIDDLE DOTwLD MAPgM",
  "bRIED FACElRAPPED PRESENTnEATH PRODUCTlNCHdSTLERShITING HANDmX IN A RECTANGLE BOXt-RAY",
  "eIANGQI BLACK CANNONfHARIOThELEPHANTiGENERALhHORSEfMANDARINiSOLDIERnRED CANNONfHARIOThELEPHANT",
  "iGENERALhHORSEfMANDARINiSOLDIERsORdYAWNING FACElELLOW HEARTkN SIGNgZIDI COMBINING HAMZA MARK",
  "kMADDA MARKuHYPHENATION MARKqLETTER BEcCHHIMdIMdIMdDADbLdELIFdTbWbYNdFAcGAFdHAYcHAdJAcKAFcHAF",
  "eLAMa WITH DOT ABOVEsMIMdNUNdOWcPEbHEdQAFdRAbHAdSADcEbHINdINdTAbHEdUMcVAa ALTERNATE FORMrWAW",
  "dXAbHEYNfYOTa WITH CIRCUMFLEX ABOVEzZAaLcEpI RADICAL BBUTdURdCHEcIPcUOPdYaPbTdDDURdUcGAbEPcGOP",
  "cUOdOTdHMOcXITcOPcUOeJJIEcUTcYcOcKEbITdLIaEcYRdMIbOPdNBIEdYIPcOPdZUPeOPcPUTcYTdQOTdSHATcOPcUR",
  "cYcSIdTATcUcVEPcURdWOcYITcOcZAbOTcUPbRcZIETnSYLLABLE AaPbTbXcBAaPbTbXcBAaPbTbXcEaPbXcIaEaPbTbX",
  "cPbTbXcOaPbTbXcUaOaPbXcPbRaXcTbXcYaPbTbXdEaPbXcIaEaPbTbXcPbTbXcOaPbTbXcUaOaPbXcPbRaXcTbXcYaPbR",
  "aXcTbXdCAaPbTbXcEaPbXcHAaPbTbXcEaPbTbXcOaPbTbXcUaOaPbTbXcPbRaXcXcYaPbRaXcTbXdIaEaPbTbXcPbTbXcO",
  "aPbTbXcUaOaPbXcPbRaXcTbXcYaPbRaXcTbXdDAaPbTbXcDAaPbTbXcEaPbXcIaEaPbXcPbTbXcOaPbTbXcUaOaPbXcPbR",
  "aXcTbXdEaPbXcIaEaPbXcPbTbXcOaPbTbXcUaOaXcPbRaXcTbXdEaXcFAaPbTbXcIaPbTbXcOaPbXcUaPbRaXcTbXcYaP",
  "bTbXdGAaPbTbXcEaPbTbXcGAaPbTbXcEaPbTbXcIaEaPbXcTbXcOaPbTbXcUaOaPbTbXcPbRaXcTbXdIaEaPbTbXcPbTbX",
  "cOaPbTbXcUaOaPbTbXcPbRaXcTbXdHAaPbTbXcEaPbXcIEaXcTcLAaPbTbXcEaPbXcIaEaPbXcPbTbXcOaPbXcUaOaPbX",
  "cPbRaXcTbXcYaPbRaXcTbXdMAaPbTbXcIaEaPbXcPbTbXcOaPbTbXcUaOaPbXcPbRaXcTbXcYaPbRaXcXdNAaPbTbXcEaP",
  "bXcIaEaPbTbXcPbTbXcOPbTbXcUOaXcTdOaPbTbXcUOaPbTbXdXAaPbTbXcEaPbXcIaEaPbTbXcPbTbXcOaPbTbXcUOaP",
  "bTbXfIaEaPbTbXcPbTaERATION MARKnXcJIaEaPbTbXcPbTbXcJIaEaPbTbXcPbTbXcOaPbTbXcUaOaPbXcPbRaXcTbX",
  "cYaPbTbXdOaPbTbXcUaOaPbTbXcPbRaXcTbXcYaPbRaXcTbXdKAaPbTbXcEaPbTbXcIaEaPbXcPbTbXcOaPbTbXcUaOaP",
  "bXcPbRaXcTbXdLAaPbTbXcEaPbXcIaEaPbTbXcPbTbXcOaPbTbXcUaOaPbTbXcPbRaXcTbXcYaPbRaXcTbXdMAaPbTbXcE",
  "aXcGAaPbTbXcEaPbXcIEaXdOaPbTbXcUaOaPbXcPbRaXcTbXdIaEaPbXcPbTbXcOaPbTbXcUaOaPbTbXcPbRaXcTbXcYaP",
  "bTbXdNAaPbXcBAaPbTbXcIaEaPbXcPbTbXcOaPbTbXcUaPbRaXcTbXcYaPbRaXcTbXdDAaPbTbXcEaPbXcIaEaXcPbTbX",
  "cOaPbTbXcUaPbRaXcTbXdEaPbXcGAaPbTbXcEaPbXcIEaPbXdOaPbTbXcUOaTbXeIaEaPbXcPbTbXcJIaEaPbTbXcPbTbX",
  "cOaPbTbXcUaOaXcPbRaXcXcYaPbRaXcTbXdOaPbTbXcRAaPbTbXcEaPbTbXcOaPbXcUaPbRaXcTbXcYaPbRaXcTbXdUaO",
  "aPbXcPbRaXcTbXcYIaEaPbTbXcPbTbXcOaPbTbXcUaOaPbXcPbTbXdZAaPbTbXcEaXcIaEaPbXcPbTbXcOPbXcUaOaXcP",
  "bRaXcXcYaPbRaXcTbXeOaPbTbXcPAaPbTbXcIaEaPbXcPbTbXcOaPbTbXcUaOaPbXcPbRaXcTbXcYaPbRaXcTbXdQIaEaP",
  "bTbXcPbTbXcOaPbTbXcUaOaPbTbXcPbRaXcTbXcYaPbRaXcTbXdRAaPbTbXcEaPbXcOaPbTbXcRAaXcEaPbTbXcOaPbTbX",
  "cUaOaXcPbRaXcTbXcYaPbRaXcTbXdUaOaPbXcPbRaXcTbXcYaPbRaXcTbXdSAaPbTbXcEaPbXcHAaPbTbXcEaPbTbXcOaP",
  "bTbXcUaOaPbXcPbRaXcTbXcYaPbRaXcTbXdIaEaPbXcPbTbXcOaPbTbXcSAaPbTbXcEaPbXcIaEaPbXcPbTbXcOaPbTbX",
  "cUaPbTbXcYaPbRaXcTbXdUaOaPbXcPbRaXcTbXcYaPbRaXcTbXdTAaPbTbXcEaPbXcIaEaPbXcPbTbXcOaPbTbXcUaOaP",
  "bTbXcPbRaXcTbXdUOaPbXdVAaPbTbXcEPbXcIaEaPbTbXcPbTbXcOaPbTbXcUaPbRaXcTbXcYaPbRaXcTbXdWAaPbTbXcE",
  "aPbXcOaPbXcUaOaPbXeXIaEaPbTbXcPbTbXcOaPbTbXcUOaXdYaPbRaXcTbXdYIaEaPbTbXcPbTbXcOaPbTbXcUaOaPbT",
  "bXcPbRaXcTbXcYaPbRaXcTbXdZAaPbTbXcEaPbXcHAaPbTbXcEaPbTbXcOaPbTbXcUaOaPbXcPbRaXcTbXcYaPbRaXcTbX",
  "dIaEaPbXcPbTbXcOaPbTbXcUaOaPbXcPbRaXcTbXcYaPbRaXcTbXcZAaPbTbXcEaPbXcIaEaPbTbXcPbTbXcOaPbXcUaP",
  "bRaXcXcYaPbRaXcTbXoN YANGhO-YOfZ NOTA",
  "TION BAG MEMBERSHIPoDOMAIN ANTIRESTRICTION",
  "wLEFT BINDING BRACKETpIMAGE BRACKETsRANGE ANTIRESTRICTIONuELATIONAL COMPOSITION",
  "vIGHT BINDING BRACKETpIMAGE BRACKETtSCHEMA COMPOSITIONlPIPINGfROJECTIONqPOTeTYPE COLON",
  "uANABAZAR SQUARE CLOSING DOUBLE-LINED HEAD MARKwHEAD MARKpUSTER-FINAL LETTER LAcRAcVAcYA",
  "pINITIAL LETTER RAzFINAL CONSONANT MARKuINITIAL DOUBLE-LINED HEAD MARKwHEAD MARKrLETTER -AcA",
  "bBAbHAdCAbHAdDAbDAbHAdHAcZAbHAeGAbHAdHAcJAcKAbHAcSSAeLAcMAcNAbGAcNAcYAdPAbHAdRAcSAbHAcSAdTAbHA",
  "cSAbHAdTAbHAeVAcYAcZAbHAkMARK DOUBLE SHADlLONG TSHEGkSHADeTSHEGkSIGN ANUSVARA",
  "iCANDRA WITH ORNAMENToBINDUa WITH ORNAMENTzVIRAMAeSARGAlUBJOINERjVOWEL LENGTH MARKlSIGN AIbUcE",
  "bIbOaEcREVERSED IkUaEzeEBRA FACEiRO WIDTH JOINERgNO-BREAK SPACEmN-JOINERkSPACEoUS",
  "dIPPER-MOUTH FACEqNAMENNY COMBINING ATTACHING VERTICAL OMETxLOWER TONAL RANGE INDICATOR",
  "zcMARK BORZAYAhCHASHKAa POLNAYAoURVED OMETlDEMESTVENNY ZADERZHKAuVOETOCHIE",
  "kGORAZDO NIZKO ON LEFTeRIGHTiS KRYZHEM ON LEFTeRIGHTyVYSOKOoKACHKAfRYZHa ON LEFTmUPNAYAhLOMKA",
  "fMALO POVYSHE ON LEFTeRIGHTiS KHOKHLOM ON LEFTeRIGHTqRYZHEMiTRANNOuNIZKO ON LEFTeRIGHT",
  "iS KRYZHEM ON LEFTeRIGHTyOBLACHKOhNbTSECHKAiPODCHASHIEa WITH VERTICAL STROKEzdVERTKA",
  "hVYSHE ON LEFTeRIGHTiS KHOKHLOM ON LEFTeRIGHTqRYZHEMiTRANNOpRAVNOdZSEKAhSKOBAeOROCHYA NOZHKA",
  "oREDNE ON LEFTeRIGHToTRANNO MALO POVYSHEuTIKHAYAgOCHKAfSATA ON LEFTeRIGHTiS KRYZHEMpUDARKA",
  "gVYSOKO ON LEFTeRIGHTiS KHOKHLOM ON LEFTeRIGHTqRYZHEMqZADERZHKAiELOcVOK",
  "kTONAL RANGE MARK MRACHNOhSVETLOgTRESVETLOzlNEUME CHASHKAfELYUSTKAkDEMESTVENNY KLYUCHqRBITSA",
  "hOUBLE ZAPYATAYApUDAdVA V CHELNUmFITAeGOLUBCHIK BORZYfMRACHNYhSVETLYgTIKHYeRESVETLYtKHAMILO",
  "gLYUCHfOBYLAfRYUKa TIKHYiZHeUFISMAhMECHIKa KLYUCHENEPOSTOYANNYmPOVODNYhVOYkPOVODNYoNEMKA",
  "fOBLAKOfSOKAa KLYUCHEVAYA NEPOSTOYANNAYAoSVETLAYAtRYUKOVAYA SVETLAYAtSVETLAYAiTRESVETLAYA",
  "rPALKAdRAKLITgUKdEREVODKAa NEPOSTOYANNAYAxODCHASHIEiLKULIZMYkREVERSED CHELYUSTKAsOG",
  "dSKAMEYTSA DVOECHELNAYA KLYUCHEVAYAlNEPOSTOYANNAYAoPROSTAYAiSVETLAYAvKLYUCHENEPOSTOYANNAYA",
  "oVAYA SVETLAYAiTIKHAYAtMRACHNAYAjSVETLAYAiTIKHAYAgRESVETLAYAuLOZHITIEa S KRYZHEMhZAPYATOY",
  "kZAKRYTOErTATYAa NEPOSTOYANNAYAoS DVUMYA ZAPYATYMIqKRYZHEMa I ZAPYATOYsROGOMfZAPYATOY",
  "a I KRYZHEMhPODCHASHIEMyZAKRYTAYAa S ZAPYATOYzOPITSAa S OCHKOMiWITH SOROCHYA NOZHKA",
  "zcRELA DVOECHELNAYAa KLYUCHEVAYApOKRYZHEVAYAkPOVODNAYAa KLYUCHEVAYAzgGROMNAYA",
  "a WITH SINGLE ZAPYATAYAzbOKRYZHEVAYAa POVODNAYAuPOVODNAYAa WITH DOUBLE ZAPYATAYA",
  "qSINGLE ZAPYATAYAzlKLYUCHENEPOSTOYANNAYAoPOVODNAYApRYUKOVAYAa GROMNAYAa WITH SINGLE ZAPYATAYA",
  "zbOKRYZHEVAYAa POVODNAYAuPOVODNAYAa WITH DOUBLE ZAPYATAYAqSINGLE ZAPYATAYAzlPOVODNAYAjTRYASKA",
  "pZHEVAYAkMRACHNOTIKHAYAoNEPOSTOYANNAYAoPOLUPOVODNAYAlVODNAYAiROSTAYAiTIKHAYA PUTNAYA",
  "oRYASOGLASNAYAiPOVODNAYAjSTRELNAYAwVRAKHIYA KLYUCHEVAYA MRACHNAYAjPROSTAYAiSVETLAYA",
  "iTRESVETLAYAxMRACHNAYAjPROSTAYAiSVETLAYAiTRESVETLAYAuZANOZHEKgPYATAYAiMEYTSA",
  "nPRIZNAK MODIFIER DIRECTION FLIPoKRYZHfLEVEL-2b3hROGzdOMBIEfWJbNBSPdJcSP"]

end TidyImports.Text.CharName
