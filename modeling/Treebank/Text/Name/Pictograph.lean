import Treebank.Text.Name.Table

/-!
# Names of pictographs

Characters from `1D000` on: music, letters of mathematics, sign writing, pictures, and the tags and
selectors that are not shown.
-/

namespace Treebank.Text

/-- Names of the characters from `1D000` on. -/
def pictographNames : NameTable := ⟨
"@1D000 BYZANTINE MUSICAL SYMBOL PSILI dDASEIA dPERISPOMENI dOXEIA EKFONITIKON eDIPLI dVAREIA
EKFONITIKON eDIPLI dKATHISTI dSYRMATIKI dPARAKLITIKI dYPOKRISIS eDIPLI dKREMASTI dAPESO EKFONITIKON
dEXO EKFONITIKON dTELEIA dKENTIMATA dAPOSTROFOS eDIPLI dSYNEVMA dTHITA dOLIGON ARCHAION dGORGON
ARCHAION dPSILON dCHAMILON dVATHY dISON ARCHAION dKENTIMA ARCHAION dKENTIMATA ARCHAION dSAXIMATA
dPARICHON dSTAVROS APODEXIA dOXEIAI ARCHAION dVAREIAI ARCHAION dAPODERMA ARCHAION dAPOTHEMA dKLASMA
dREVMA dPIASMA ARCHAION dTINAGMA dANATRICHISMA dSEISMA dSYNAGMA ARCHAION eMETA STAVROU dOYRANISMA
ARCHAION dTHEMA dLEMOI dDYO dTRIA dTESSERA dKRATIMATA dAPESO EXO NEO dFTHORA ARCHAION dIMIFTHORA
dTROMIKON ARCHAION dKATAVA TROMIKON dPELASTON dPSIFISTON dKONTEVMA dCHOREVMA ARCHAION dRAPISMA
dPARAKALESMA ARCHAION dPARAKLITIKI ARCHAION dICHADIN dNANA dPETASMA dKONTEVMA ALLO dTROMIKON ALLO
dSTRAGGISMATA dGRONTHISMATA dISON NEO dOLIGON NEO dOXEIA NEO dPETASTI dKOUFISMA dPETASTOKOUFISMA
dKRATIMOKOUFISMA dPELASTON NEO dKENTIMATA NEO ANO dKENTIMA NEO ANO dYPSILI dAPOSTROFOS NEO
dAPOSTROFOI SYNDESMOS NEO dYPORROI dKRATIMOYPORROON dELAFRON dCHAMILI dMIKRON ISON dVAREIA NEO
dPIASMA NEO dPSIFISTON NEO dOMALON dANTIKENOMA dLYGISMA dPARAKLITIKI NEO dPARAKALESMA NEO dETERON
PARAKALESMA dKYLISMA dANTIKENOKYLISMA dTROMIKON NEO dEKSTREPTON dSYNAGMA NEO dSYRMA dCHOREVMA NEO
dEPEGERMA dSEISMA NEO dXIRON KLASMA dTROMIKOPSIFISTON dPSIFISTOLYGISMA dTROMIKOLYGISMA
dTROMIKOPARAKALESMA dPSIFISTOPARAKALESMA dTROMIKOSYNAGMA dPSIFISTOSYNAGMA dGORGOSYNTHETON
dARGOSYNTHETON dETERON ARGOSYNTHETON dOYRANISMA NEO dTHEMATISMOS ESO eEXO dTHEMA APLOUN dTHES KAI
APOTHES dKATAVASMA dENDOFONON dYFEN KATO eANO dSTAVROS dKLASMA ANO dDIPLI ARCHAION dKRATIMA
ARCHAION eALLO eNEO dAPODERMA NEO dAPLI dDIPLI dTRIPLI dTETRAPLI dKORONIS dLEIMMA ENOS CHRONOU eDYO
CHRONON eTRION CHRONON eTESSARON CHRONON eIMISEOS CHRONOU dGORGON NEO ANO ePARESTIGMENON ARISTERA
fDEXIA dDIGORGON ePARESTIGMENON ARISTERA KATO gANO fDEXIA dTRIGORGON dARGON dIMIDIARGON dDIARGON
dAGOGI POLI ARGI eARGOTERI eARGI eMETRIA eMESI eGORGI eGORGOTERI ePOLI GORGI dMARTYRIA PROTOS ICHOS
eALLI PROTOS ICHOS eDEYTEROS ICHOS eALLI DEYTEROS ICHOS eTRITOS ICHOS eTRIFONIAS eTETARTOS ICHOS
fLEGETOS ICHOS eLEGETOS ICHOS ePLAGIOS ICHOS dISAKIA TELOUS ICHIMATOS dAPOSTROFOI TELOUS ICHIMATOS
dFANEROSIS TETRAFONIAS eMONOFONIAS eDIFONIAS dMARTYRIA VARYS ICHOS ePROTOVARYS ICHOS ePLAGIOS
TETARTOS ICHOS dGORTHMIKON N APLOUN fDIPLOUN dENARXIS KAI FTHORA VOU dIMIFONON dIMIFTHORON dFTHORA
ARCHAION DEYTEROU ICHOU eDIATONIKI PA fNANA eNAOS ICHOS eDIATONIKI DI eSKLIRON DIATONON DI
eDIATONIKI KE fZO fNI KATO gANO eMALAKON CHROMA DIFONIAS gMONOFONIAS dFHTORA SKLIRON CHROMA VASIS
dFTHORA SKLIRON CHROMA SYNAFI eNENANO dCHROA ZYGOS eKLITON eSPATHI dFTHORA I YFESIS TETARTIMORION
eENARMONIOS ANTIFONIA dYFESIS TRITIMORION dDIESIS TRITIMORION eTETARTIMORION eAPLI DYO DODEKATA
eMONOGRAMMOS TESSERA DODEKATA eDIGRAMMOS EX DODEKATA eTRIGRAMMOS OKTO DODEKATA dYFESIS APLI DYO
DODEKATA eMONOGRAMMOS TESSERA DODEKATA eDIGRAMMOS EX DODEKATA eTRIGRAMMOS OKTO DODEKATA dGENIKI
DIESIS eYFESIS dDIASTOLI APLI MIKRI fMEGALI eDIPLI eTHESEOS dSIMANSIS THESEOS fDISIMOU fTRISIMOU
fTETRASIMOU eARSEOS fDISIMOU fTRISIMOU fTETRASIMOU dDIGRAMMA GG dDIFTOGGOS OU dSTIGMA dARKTIKO PA
eVOU eGA eDI eKE eZO eNI dKENTIMATA NEO MESO dKENTIMA NEO MESO dKENTIMATA NEO KATO dKENTIMA NEO
KATO dKLASMA KATO dGORGON NEO KATO @1D100 MUSICAL SYMBOL SINGLE BARLINE cDOUBLE BARLINE cFINAL
BARLINE cREVERSE FINAL BARLINE cDASHED BARLINE cSHORT BARLINE cLEFT REPEAT SIGN cRIGHT REPEAT SIGN
cREPEAT DOTS cDAL SEGNO cDA CAPO cSEGNO cCODA cREPEATED FIGURE-1 dFIGURE-2 dFIGURE-3 cFERMATA
dBELOW cBREATH MARK cCAESURA cBRACE cBRACKET cONE-LINE STAFF cTWO-LINE STAFF cTHREE-LINE STAFF
cFOUR-LINE STAFF cFIVE-LINE STAFF cSIX-LINE STAFF cSIX-STRING FRETBOARD cFOUR-STRING FRETBOARD cG
CLEF eOTTAVA ALTA fBASSA cC CLEF cF CLEF eOTTAVA ALTA fBASSA cDRUM CLEF-1 dCLEF-2 @1D129 MUSICAL
SYMBOL MULTIPLE MEASURE REST cDOUBLE SHARP dFLAT cFLAT UP dDOWN cNATURAL UP dDOWN cSHARP UP dDOWN
cQUARTER TONE SHARP eFLAT cCOMMON TIME cCUT TIME cOTTAVA ALTA dBASSA cQUINDICESIMA ALTA dBASSA
cMULTI REST cWHOLE REST cHALF REST cQUARTER REST cEIGHTH REST cSIXTEENTH REST cTHIRTY-SECOND REST
cSIXTY-FOURTH REST cONE HUNDRED TWENTY-EIGHTH REST cX NOTEHEAD cPLUS NOTEHEAD cCIRCLE X NOTEHEAD
cSQUARE NOTEHEAD WHITE eBLACK cTRIANGLE NOTEHEAD UP WHITE fBLACK eLEFT WHITE fBLACK eRIGHT WHITE
fBLACK eDOWN WHITE fBLACK eUP RIGHT WHITE gBLACK cMOON NOTEHEAD WHITE eBLACK cTRIANGLE-ROUND
NOTEHEAD DOWN WHITE fBLACK cPARENTHESIS NOTEHEAD cVOID NOTEHEAD cNOTEHEAD BLACK cNULL NOTEHEAD
cCLUSTER NOTEHEAD WHITE eBLACK cBREVE cWHOLE NOTE cHALF NOTE cQUARTER NOTE cEIGHTH NOTE cSIXTEENTH
NOTE cTHIRTY-SECOND NOTE cSIXTY-FOURTH NOTE cONE HUNDRED TWENTY-EIGHTH NOTE cCOMBINING STEM
dSPRECHGESANG STEM dTREMOLO-1 dTREMOLO-2 dTREMOLO-3 cFINGERED TREMOLO-1 dTREMOLO-2 dTREMOLO-3
cCOMBINING AUGMENTATION DOT dFLAG-1 dFLAG-2 dFLAG-3 dFLAG-4 dFLAG-5 cBEGIN BEAM cEND BEAM cBEGIN
TIE cEND TIE cBEGIN SLUR cEND SLUR cBEGIN PHRASE cEND PHRASE cCOMBINING ACCENT dSTACCATO dTENUTO
dSTACCATISSIMO dMARCATO dMARCATO-STACCATO dACCENT-STACCATO dLOURE cARPEGGIATO UP dDOWN cCOMBINING
DOIT dRIP dFLIP dSMEAR dBEND dDOUBLE TONGUE dTRIPLE TONGUE cRINFORZANDO cSUBITO cZ cPIANO cMEZZO
cFORTE cCRESCENDO cDECRESCENDO cGRACE NOTE SLASH eNO SLASH cTR cTURN cINVERTED TURN cTURN SLASH dUP
cORNAMENT STROKE-1 dSTROKE-2 dSTROKE-3 dSTROKE-4 dSTROKE-5 dSTROKE-6 dSTROKE-7 dSTROKE-8 dSTROKE-9
dSTROKE-10 dSTROKE-11 cHAUPTSTIMME cNEBENSTIMME cEND OF STIMME cDEGREE SLASH cCOMBINING DOWN BOW
dUP BOW dHARMONIC dSNAP PIZZICATO cPEDAL MARK dUP MARK cHALF PEDAL MARK cGLISSANDO UP dDOWN cWITH
FINGERNAILS cDAMP dALL cMAXIMA cLONGA cBREVIS cSEMIBREVIS WHITE dBLACK cMINIMA dBLACK cSEMIMINIMA
WHITE dBLACK cFUSA WHITE dBLACK cLONGA PERFECTA REST dIMPERFECTA REST cBREVIS REST cSEMIBREVIS REST
cMINIMA REST cSEMIMINIMA REST cTEMPUS PERFECTUM CUM PROLATIONE PERFECTA gIMPERFECTA gPERFECTA
DIMINUTION-1 dIMPERFECTUM CUM PROLATIONE PERFECTA gIMPERFECTA hDIMINUTION-1 hDIMINUTION-2
hDIMINUTION-3 cCROIX cGREGORIAN C CLEF dF CLEF cSQUARE B cVIRGA cPODATUS cCLIVIS cSCANDICUS
cCLIMACUS cTORCULUS cPORRECTUS dFLEXUS cSCANDICUS FLEXUS cTORCULUS RESUPINUS cPES SUBPUNCTIS
cKIEVAN C CLEF dEND OF PIECE dFINAL NOTE dRECITATIVE MARK dWHOLE NOTE dHALF NOTE dQUARTER NOTE STEM
DOWN gUP dEIGHTH NOTE STEM DOWN gUP dFLAT SIGN cSORI cKORON @1D200 GREEK VOCAL NOTATION SYMBOL-1
dSYMBOL-2 dSYMBOL-3 dSYMBOL-4 dSYMBOL-5 dSYMBOL-6 dSYMBOL-7 dSYMBOL-8 dSYMBOL-9 dSYMBOL-10
dSYMBOL-11 dSYMBOL-12 dSYMBOL-13 dSYMBOL-14 dSYMBOL-15 dSYMBOL-16 dSYMBOL-17 dSYMBOL-18 dSYMBOL-19
dSYMBOL-20 dSYMBOL-21 dSYMBOL-22 dSYMBOL-23 dSYMBOL-24 dSYMBOL-50 dSYMBOL-51 dSYMBOL-52 dSYMBOL-53
dSYMBOL-54 bINSTRUMENTAL NOTATION SYMBOL-1 dSYMBOL-2 dSYMBOL-4 dSYMBOL-5 dSYMBOL-7 dSYMBOL-8
dSYMBOL-11 dSYMBOL-12 dSYMBOL-13 dSYMBOL-14 dSYMBOL-17 dSYMBOL-18 dSYMBOL-19 dSYMBOL-23 dSYMBOL-24
dSYMBOL-25 dSYMBOL-26 dSYMBOL-27 dSYMBOL-29 dSYMBOL-30 dSYMBOL-32 dSYMBOL-36 dSYMBOL-37 dSYMBOL-38
dSYMBOL-39 dSYMBOL-40 dSYMBOL-42 dSYMBOL-43 dSYMBOL-45 dSYMBOL-47 dSYMBOL-48 dSYMBOL-49 dSYMBOL-50
dSYMBOL-51 dSYMBOL-52 dSYMBOL-53 dSYMBOL-54 aCOMBINING GREEK MUSICAL TRISEME dTETRASEME dPENTASEME
aGREEK MUSICAL LEIMMA @1D2E0 MAYAN NUMERAL ZERO cONE cTWO cTHREE cFOUR cFIVE cSIX cSEVEN cEIGHT
cNINE cTEN cELEVEN cTWELVE cTHIRTEEN cFOURTEEN cFIFTEEN cSIXTEEN cSEVENTEEN cEIGHTEEN cNINETEEN
@1D300 MONOGRAM FOR EARTH aDIGRAM FOR HEAVENLY EARTH cHUMAN EARTH cEARTHLY HEAVEN dHUMAN cEARTH
aTETRAGRAM FOR CENTRE cFULL CIRCLE cMIRED cBARRIER cKEEPING SMALL cCONTRARIETY cASCENT cOPPOSITION
cBRANCHING OUT cDEFECTIVENESS OR DISTORTION cDIVERGENCE cYOUTHFULNESS cINCREASE cPENETRATION cREACH
cCONTACT cHOLDING BACK cWAITING cFOLLOWING cADVANCE cRELEASE cRESISTANCE cEASE cJOY cCONTENTION
cENDEAVOUR cDUTIES cCHANGE cDECISIVENESS cBOLD RESOLUTION cPACKING cLEGION cCLOSENESS cKINSHIP
cGATHERING cSTRENGTH cPURITY cFULLNESS cRESIDENCE cLAW OR MODEL cRESPONSE cGOING TO MEET
cENCOUNTERS cSTOVE cGREATNESS cENLARGEMENT cPATTERN cRITUAL cFLIGHT cVASTNESS OR WASTING cCONSTANCY
cMEASURE cETERNITY cUNITY cDIMINISHMENT cCLOSED MOUTH cGUARDEDNESS cGATHERING IN cMASSING
cACCUMULATION cEMBELLISHMENT cDOUBT cWATCH cSINKING cINNER cDEPARTURE cDARKENING cDIMMING
cEXHAUSTION cSEVERANCE cSTOPPAGE cHARDNESS cCOMPLETION cCLOSURE cFAILURE cAGGRAVATION cCOMPLIANCE
cON THE VERGE cDIFFICULTIES cLABOURING cFOSTERING @1D360 COUNTING ROD UNIT DIGIT ONE eTWO eTHREE
eFOUR eFIVE eSIX eSEVEN eEIGHT eNINE cTENS DIGIT ONE eTWO eTHREE eFOUR eFIVE eSIX eSEVEN eEIGHT
eNINE aIDEOGRAPHIC TALLY MARK ONE dTWO dTHREE dFOUR dFIVE aTALLY MARK ONE cFIVE @1D400 MATHEMATICAL
BOLD CAPITAL A dB dC dD dE dF dG dH dI dJ dK dL dM dN dO dP dQ dR dS dT dU dV dW dX dY dZ cSMALL A
dB dC dD dE dF dG dH dI dJ dK dL dM dN dO dP dQ dR dS dT dU dV dW dX dY dZ bITALIC CAPITAL A dB dC
dD dE dF dG dH dI dJ dK dL dM dN dO dP dQ dR dS dT dU dV dW dX dY dZ cSMALL A dB dC dD dE dF dG
@1D456 MATHEMATICAL ITALIC SMALL I dJ dK dL dM dN dO dP dQ dR dS dT dU dV dW dX dY dZ bBOLD ITALIC
CAPITAL A eB eC eD eE eF eG eH eI eJ eK eL eM eN eO eP eQ eR eS eT eU eV eW eX eY eZ dSMALL A eB eC
eD eE eF eG eH eI eJ eK eL eM eN eO eP eQ eR eS eT eU eV eW eX eY eZ bSCRIPT CAPITAL A @1D49E
MATHEMATICAL SCRIPT CAPITAL C dD @1D4A2 MATHEMATICAL SCRIPT CAPITAL G @1D4A5 MATHEMATICAL SCRIPT
CAPITAL J dK @1D4A9 MATHEMATICAL SCRIPT CAPITAL N dO dP dQ @1D4AE MATHEMATICAL SCRIPT CAPITAL S dT
dU dV dW dX dY dZ cSMALL A dB dC dD @1D4BB MATHEMATICAL SCRIPT SMALL F @1D4BD MATHEMATICAL SCRIPT
SMALL H dI dJ dK dL dM dN @1D4C5 MATHEMATICAL SCRIPT SMALL P dQ dR dS dT dU dV dW dX dY dZ bBOLD
SCRIPT CAPITAL A eB eC eD eE eF eG eH eI eJ eK eL eM eN eO eP eQ eR eS eT eU eV eW eX eY eZ dSMALL
A eB eC eD eE eF eG eH eI eJ eK eL eM eN eO eP eQ eR eS eT eU eV eW eX eY eZ bFRAKTUR CAPITAL A dB
@1D507 MATHEMATICAL FRAKTUR CAPITAL D dE dF dG @1D50D MATHEMATICAL FRAKTUR CAPITAL J dK dL dM dN dO
dP dQ @1D516 MATHEMATICAL FRAKTUR CAPITAL S dT dU dV dW dX dY @1D51E MATHEMATICAL FRAKTUR SMALL A
dB dC dD dE dF dG dH dI dJ dK dL dM dN dO dP dQ dR dS dT dU dV dW dX dY dZ bDOUBLE-STRUCK CAPITAL A
dB @1D53B MATHEMATICAL DOUBLE-STRUCK CAPITAL D dE dF dG @1D540 MATHEMATICAL DOUBLE-STRUCK CAPITAL I
dJ dK dL dM @1D546 MATHEMATICAL DOUBLE-STRUCK CAPITAL O @1D54A MATHEMATICAL DOUBLE-STRUCK CAPITAL S
dT dU dV dW dX dY @1D552 MATHEMATICAL DOUBLE-STRUCK SMALL A dB dC dD dE dF dG dH dI dJ dK dL dM dN
dO dP dQ dR dS dT dU dV dW dX dY dZ bBOLD FRAKTUR CAPITAL A eB eC eD eE eF eG eH eI eJ eK eL eM eN
eO eP eQ eR eS eT eU eV eW eX eY eZ dSMALL A eB eC eD eE eF eG eH eI eJ eK eL eM eN eO eP eQ eR eS
eT eU eV eW eX eY eZ bSANS-SERIF CAPITAL A dB dC dD dE dF dG dH dI dJ dK dL dM dN dO dP dQ dR dS dT
dU dV dW dX dY dZ cSMALL A dB dC dD dE dF dG dH dI dJ dK dL dM dN dO dP dQ dR dS dT dU dV dW dX dY
dZ cBOLD CAPITAL A eB eC eD eE eF eG eH eI eJ eK eL eM eN eO eP eQ eR eS eT eU eV eW eX eY eZ
dSMALL A eB eC eD eE eF eG eH eI eJ eK eL eM eN eO eP eQ eR eS eT eU eV eW eX eY eZ cITALIC CAPITAL
A eB eC eD eE eF eG eH eI eJ eK eL eM eN eO eP eQ eR eS eT eU eV eW eX eY eZ dSMALL A eB eC eD eE
eF eG eH eI eJ eK eL eM eN eO eP eQ eR eS eT eU eV eW eX eY eZ cBOLD ITALIC CAPITAL A fB fC fD fE
fF fG fH fI fJ fK fL fM fN fO fP fQ fR fS fT fU fV fW fX fY fZ eSMALL A fB fC fD fE fF fG fH fI fJ
fK fL fM fN fO fP fQ fR fS fT fU fV fW fX fY fZ bMONOSPACE CAPITAL A dB dC dD dE dF dG dH dI dJ dK
dL dM dN dO dP dQ dR dS dT dU dV dW dX dY dZ cSMALL A dB dC dD dE dF dG dH dI dJ dK dL dM dN dO dP
dQ dR dS dT dU dV dW dX dY dZ bITALIC SMALL DOTLESS I eJ @1D6A8 MATHEMATICAL BOLD CAPITAL ALPHA
dBETA dGAMMA dDELTA dEPSILON dZETA dETA dTHETA dIOTA dKAPPA dLAMDA dMU dNU dXI dOMICRON dPI dRHO
dTHETA SYMBOL dSIGMA dTAU dUPSILON dPHI dCHI dPSI dOMEGA cNABLA cSMALL ALPHA dBETA dGAMMA dDELTA
dEPSILON dZETA dETA dTHETA dIOTA dKAPPA dLAMDA dMU dNU dXI dOMICRON dPI dRHO dFINAL SIGMA dSIGMA
dTAU dUPSILON dPHI dCHI dPSI dOMEGA cPARTIAL DIFFERENTIAL cEPSILON SYMBOL cTHETA SYMBOL cKAPPA
SYMBOL cPHI SYMBOL cRHO SYMBOL cPI SYMBOL bITALIC CAPITAL ALPHA dBETA dGAMMA dDELTA dEPSILON dZETA
dETA dTHETA dIOTA dKAPPA dLAMDA dMU dNU dXI dOMICRON dPI dRHO dTHETA SYMBOL dSIGMA dTAU dUPSILON
dPHI dCHI dPSI dOMEGA cNABLA cSMALL ALPHA dBETA dGAMMA dDELTA dEPSILON dZETA dETA dTHETA dIOTA
dKAPPA dLAMDA dMU dNU dXI dOMICRON dPI dRHO dFINAL SIGMA dSIGMA dTAU dUPSILON dPHI dCHI dPSI dOMEGA
cPARTIAL DIFFERENTIAL cEPSILON SYMBOL cTHETA SYMBOL cKAPPA SYMBOL cPHI SYMBOL cRHO SYMBOL cPI
SYMBOL bBOLD ITALIC CAPITAL ALPHA eBETA eGAMMA eDELTA eEPSILON eZETA eETA eTHETA eIOTA eKAPPA
eLAMDA eMU eNU eXI eOMICRON ePI eRHO eTHETA SYMBOL eSIGMA eTAU eUPSILON ePHI eCHI ePSI eOMEGA
dNABLA dSMALL ALPHA eBETA eGAMMA eDELTA eEPSILON eZETA eETA eTHETA eIOTA eKAPPA eLAMDA eMU eNU eXI
eOMICRON ePI eRHO eFINAL SIGMA eSIGMA eTAU eUPSILON ePHI eCHI ePSI eOMEGA dPARTIAL DIFFERENTIAL
dEPSILON SYMBOL dTHETA SYMBOL dKAPPA SYMBOL dPHI SYMBOL dRHO SYMBOL dPI SYMBOL bSANS-SERIF BOLD
CAPITAL ALPHA eBETA eGAMMA eDELTA eEPSILON eZETA eETA eTHETA eIOTA eKAPPA eLAMDA eMU eNU eXI
eOMICRON ePI eRHO eTHETA SYMBOL eSIGMA eTAU eUPSILON ePHI eCHI ePSI eOMEGA dNABLA dSMALL ALPHA
eBETA eGAMMA eDELTA eEPSILON eZETA eETA eTHETA eIOTA eKAPPA eLAMDA eMU eNU eXI eOMICRON ePI eRHO
eFINAL SIGMA eSIGMA eTAU eUPSILON ePHI eCHI ePSI eOMEGA dPARTIAL DIFFERENTIAL dEPSILON SYMBOL
dTHETA SYMBOL dKAPPA SYMBOL dPHI SYMBOL dRHO SYMBOL dPI SYMBOL dITALIC CAPITAL ALPHA fBETA fGAMMA
fDELTA fEPSILON fZETA fETA fTHETA fIOTA fKAPPA fLAMDA fMU fNU fXI fOMICRON fPI fRHO fTHETA SYMBOL
fSIGMA fTAU fUPSILON fPHI fCHI fPSI fOMEGA eNABLA eSMALL ALPHA fBETA fGAMMA fDELTA fEPSILON fZETA
fETA fTHETA fIOTA fKAPPA fLAMDA fMU fNU fXI fOMICRON fPI fRHO fFINAL SIGMA fSIGMA fTAU fUPSILON
fPHI fCHI fPSI fOMEGA ePARTIAL DIFFERENTIAL eEPSILON SYMBOL eTHETA SYMBOL eKAPPA SYMBOL ePHI SYMBOL
eRHO SYMBOL ePI SYMBOL bBOLD CAPITAL DIGAMMA cSMALL DIGAMMA @1D7CE MATHEMATICAL BOLD DIGIT ZERO
dONE dTWO dTHREE dFOUR dFIVE dSIX dSEVEN dEIGHT dNINE bDOUBLE-STRUCK DIGIT ZERO dONE dTWO dTHREE
dFOUR dFIVE dSIX dSEVEN dEIGHT dNINE bSANS-SERIF DIGIT ZERO dONE dTWO dTHREE dFOUR dFIVE dSIX
dSEVEN dEIGHT dNINE cBOLD DIGIT ZERO eONE eTWO eTHREE eFOUR eFIVE eSIX eSEVEN eEIGHT eNINE
bMONOSPACE DIGIT ZERO dONE dTWO dTHREE dFOUR dFIVE dSIX dSEVEN dEIGHT dNINE aSIGNWRITING HAND-FIST
INDEX bHAND-CIRCLE INDEX bHAND-CUP INDEX bHAND-OVAL INDEX bHAND-HINGE INDEX bHAND-ANGLE INDEX
bHAND-FIST INDEX BENT bHAND-CIRCLE INDEX BENT bHAND-FIST THUMB UNDER INDEX BENT cINDEX RAISED
KNUCKLE dCUPPED dHINGED eLOW bHAND-CIRCLE INDEX HINGE bHAND-FIST INDEX MIDDLE bHAND-CIRCLE INDEX
MIDDLE bHAND-FIST INDEX MIDDLE BENT eRAISED KNUCKLES eHINGED dUP MIDDLE HINGED dHINGED MIDDLE UP
dMIDDLE CONJOINED fINDEX BENT fMIDDLE BENT fCUPPED fHINGED eCROSSED bHAND-CIRCLE INDEX MIDDLE
CROSSED bHAND-FIST MIDDLE BENT OVER INDEX cINDEX BENT OVER MIDDLE dMIDDLE THUMB bHAND-CIRCLE INDEX
MIDDLE THUMB bHAND-FIST INDEX MIDDLE STRAIGHT THUMB BENT eBENT THUMB STRAIGHT eTHUMB BENT eHINGED
SPREAD THUMB SIDE dUP MIDDLE HINGED THUMB SIDE hCONJOINED dHINGED MIDDLE UP THUMB SIDE dMIDDLE UP
SPREAD THUMB FORWARD eTHUMB CUPPED fCIRCLED fHOOKED fHINGED cTHUMB BETWEEN INDEX MIDDLE STRAIGHT
cINDEX MIDDLE CONJOINED THUMB SIDE hCONJOINED hBENT cMIDDLE THUMB HOOKED INDEX UP cINDEX THUMB
HOOKED MIDDLE UP dMIDDLE CONJOINED HINGED THUMB SIDE eCROSSED THUMB SIDE eCONJOINED THUMB FORWARD
fCUPPED THUMB FORWARD cMIDDLE THUMB CUPPED INDEX UP cINDEX THUMB CUPPED MIDDLE UP cMIDDLE THUMB
CIRCLED INDEX UP gHINGED cINDEX THUMB ANGLED OUT MIDDLE UP fIN MIDDLE UP eCIRCLED MIDDLE UP dMIDDLE
THUMB CONJOINED HINGED fANGLED OUT fANGLED cMIDDLE THUMB ANGLED OUT INDEX UP hCROSSED fINDEX UP
cINDEX THUMB HOOKED MIDDLE HINGED bHAND-FLAT FOUR FINGERS eBENT eHINGED eCONJOINED fSPLIT
bHAND-CLAW FOUR FINGERS CONJOINED bHAND-FIST FOUR FINGERS CONJOINED BENT bHAND-HINGE FOUR FINGERS
CONJOINED bHAND-FLAT FIVE FINGERS SPREAD cHEEL FIVE FINGERS SPREAD cFIVE FINGERS SPREAD FOUR BENT
cHEEL FIVE FINGERS SPREAD FOUR BENT cFIVE FINGERS SPREAD BENT cHEEL FIVE FINGERS SPREAD BENT cFIVE
FINGERS SPREAD THUMB FORWARD bHAND-CUP FIVE FINGERS SPREAD fOPEN bHAND-HINGE FIVE FINGERS SPREAD
OPEN bHAND-OVAL FIVE FINGERS SPREAD bHAND-FLAT FIVE FINGERS SPREAD HINGED gTHUMB SIDE gNO THUMB
bHAND-FLAT cBETWEEN PALM FACINGS cHEEL cTHUMB SIDE cHEEL THUMB SIDE cTHUMB BENT dFORWARD cSPLIT
INDEX THUMB SIDE dCENTRE eTHUMB SIDE gBENT dLITTLE bHAND-CLAW cTHUMB SIDE cNO THUMB cTHUMB FORWARD
bHAND-HOOK CURLICUE bHAND-HOOK bHAND-CUP OPEN bHAND-CUP cOPEN THUMB SIDE cTHUMB SIDE cOPEN NO THUMB
cNO THUMB cOPEN THUMB FORWARD cTHUMB FORWARD bHAND-CURLICUE OPEN bHAND-CURLICUE bHAND-CIRCLE
bHAND-OVAL cTHUMB SIDE cNO THUMB cTHUMB FORWARD bHAND-HINGE OPEN dTHUMB FORWARD bHAND-HINGE cSMALL
cOPEN THUMB SIDE cTHUMB SIDE cOPEN NO THUMB cNO THUMB cTHUMB SIDE TOUCHING INDEX dBETWEEN MIDDLE
RING bHAND-ANGLE bHAND-FIST INDEX MIDDLE RING bHAND-CIRCLE INDEX MIDDLE RING bHAND-HINGE INDEX
MIDDLE RING bHAND-ANGLE INDEX MIDDLE RING bHAND-HINGE LITTLE bHAND-FIST INDEX MIDDLE RING BENT
fCONJOINED bHAND-HINGE INDEX MIDDLE RING CONJOINED bHAND-FIST LITTLE DOWN eRIPPLE STRAIGHT fCURVED
eOTHERS CIRCLED dUP cTHUMB UNDER LITTLE UP bHAND-CIRCLE LITTLE UP bHAND-OVAL LITTLE UP bHAND-ANGLE
LITTLE UP bHAND-FIST LITTLE RAISED KNUCKLE dBENT dTOUCHES THUMB dTHUMB bHAND-HINGE LITTLE THUMB
bHAND-FIST LITTLE INDEX THUMB bHAND-HINGE LITTLE INDEX THUMB bHAND-ANGLE LITTLE INDEX THUMB INDEX
THUMB OUT gTHUMB bHAND-FIST LITTLE INDEX bHAND-CIRCLE LITTLE INDEX bHAND-HINGE LITTLE INDEX
bHAND-ANGLE LITTLE INDEX bHAND-FIST INDEX MIDDLE LITTLE bHAND-CIRCLE INDEX MIDDLE LITTLE
bHAND-HINGE INDEX MIDDLE LITTLE cRING bHAND-ANGLE INDEX MIDDLE LITTLE bHAND-FIST INDEX MIDDLE CROSS
LITTLE bHAND-CIRCLE INDEX MIDDLE CROSS LITTLE bHAND-FIST RING DOWN bHAND-HINGE RING DOWN INDEX
THUMB HOOK MIDDLE bHAND-ANGLE RING DOWN MIDDLE THUMB INDEX CROSS bHAND-FIST RING UP dRAISED KNUCKLE
dLITTLE bHAND-CIRCLE RING LITTLE bHAND-OVAL RING LITTLE bHAND-ANGLE RING LITTLE bHAND-FIST RING
MIDDLE eCONJOINED eRAISED KNUCKLES dINDEX dTHUMB bHAND-HOOK RING THUMB bHAND-FIST INDEX RING LITTLE
bHAND-CIRCLE INDEX RING LITTLE bHAND-CURLICUE INDEX RING LITTLE ON bHAND-HOOK INDEX RING LITTLE OUT
fIN fUNDER bHAND-CUP INDEX RING LITTLE bHAND-HINGE INDEX RING LITTLE bHAND-ANGLE INDEX RING LITTLE
OUT eLITTLE bHAND-FIST MIDDLE DOWN bHAND-HINGE MIDDLE bHAND-FIST MIDDLE UP bHAND-CIRCLE MIDDLE UP
bHAND-FIST MIDDLE RAISED KNUCKLE dUP THUMB SIDE bHAND-HOOK MIDDLE THUMB bHAND-FIST MIDDLE THUMB
LITTLE dLITTLE dRING LITTLE bHAND-CIRCLE MIDDLE RING LITTLE bHAND-CURLICUE MIDDLE RING LITTLE ON
bHAND-CUP MIDDLE RING LITTLE bHAND-HINGE MIDDLE RING LITTLE bHAND-ANGLE MIDDLE RING LITTLE OUT fIN
eLITTLE bHAND-CIRCLE MIDDLE RING LITTLE BENT bHAND-CLAW MIDDLE RING LITTLE CONJOINED gSIDE
bHAND-HOOK MIDDLE RING LITTLE CONJOINED OUT gIN fCONJOINED bHAND-HINGE INDEX HINGED bHAND-FIST
INDEX THUMB SIDE bHAND-HINGE INDEX THUMB SIDE bHAND-FIST INDEX THUMB SIDE THUMB DIAGONAL gCONJOINED
gBENT fINDEX BENT fBOTH BENT fINDEX HINGE eFORWARD INDEX STRAIGHT gBENT eHOOK eCURLICUE eCURVE
THUMB INSIDE bHAND-CLAW INDEX THUMB CURVE THUMB INSIDE bHAND-FIST INDEX THUMB CURVE THUMB UNDER
eCIRCLE bHAND-CUP INDEX THUMB eOPEN bHAND-HINGE INDEX THUMB OPEN eLARGE dTHUMB eSMALL bHAND-ANGLE
INDEX THUMB OUT eIN dTHUMB bHAND-FIST THUMB dHEEL dSIDE DIAGONAL eCONJOINED eBENT dFORWARD dBETWEEN
INDEX MIDDLE eMIDDLE RING eRING LITTLE dUNDER TWO FINGERS dOVER TWO FINGERS dUNDER THREE FINGERS
eFOUR FINGERS dOVER FOUR RAISED KNUCKLES bHAND-FIST cHEEL bTOUCH SINGLE cMULTIPLE cBETWEEN bGRASP
SINGLE cMULTIPLE cBETWEEN bSTRIKE SINGLE cMULTIPLE cBETWEEN bBRUSH SINGLE cMULTIPLE cBETWEEN bRUB
SINGLE cMULTIPLE cBETWEEN bSURFACE SYMBOLS cBETWEEN bSQUEEZE LARGE SINGLE cSMALL SINGLE cLARGE
MULTIPLE cSMALL MULTIPLE cSEQUENTIAL bFLICK LARGE SINGLE cSMALL SINGLE cLARGE MULTIPLE cSMALL
MULTIPLE cSEQUENTIAL bSQUEEZE FLICK ALTERNATING bMOVEMENT-HINGE UP DOWN LARGE eSMALL dSEQUENTIAL
cDOWN SEQUENTIAL cUP DOWN ALTERNATING LARGE fSMALL cSIDE TO SIDE SCISSORS bMOVEMENT-WALLPLANE
FINGER CONTACT bMOVEMENT-FLOORPLANE FINGER CONTACT bMOVEMENT-WALLPLANE SINGLE STRAIGHT SMALL
eMEDIUM eLARGE eLARGEST dWRIST FLEX cDOUBLE STRAIGHT dWRIST FLEX dALTERNATING eWRIST FLEX cCROSS
cTRIPLE STRAIGHT MOVEMENT dWRIST FLEX dALTERNATING eWRIST FLEX cBEND SMALL dMEDIUM dLARGE cCORNER
SMALL dMEDIUM dLARGE dROTATION cCHECK SMALL dMEDIUM dLARGE cBOX SMALL dMEDIUM dLARGE cZIGZAG SMALL
dMEDIUM dLARGE cPEAKS SMALL dMEDIUM dLARGE bTRAVEL-WALLPLANE ROTATION-WALLPLANE SINGLE dDOUBLE
dALTERNATING cROTATION-FLOORPLANE SINGLE dDOUBLE dALTERNATING cSHAKING cARM SPIRAL SINGLE eDOUBLE
eTRIPLE bMOVEMENT-DIAGONAL AWAY SMALL dMEDIUM dLARGE dLARGEST cTOWARDS SMALL dMEDIUM dLARGE
dLARGEST cBETWEEN AWAY SMALL eMEDIUM eLARGE eLARGEST dTOWARDS SMALL eMEDIUM eLARGE eLARGEST
bMOVEMENT-FLOORPLANE SINGLE STRAIGHT SMALL eMEDIUM eLARGE eLARGEST dWRIST FLEX cDOUBLE STRAIGHT
dWRIST FLEX dALTERNATING eWRIST FLEX cCROSS cTRIPLE STRAIGHT MOVEMENT dWRIST FLEX dALTERNATING
MOVEMENT eWRIST FLEX cBEND cCORNER SMALL dMEDIUM dLARGE cCHECK cBOX SMALL dMEDIUM dLARGE cZIGZAG
SMALL dMEDIUM dLARGE cPEAKS SMALL dMEDIUM dLARGE bTRAVEL-FLOORPLANE ROTATION-FLOORPLANE SINGLE
dDOUBLE dALTERNATING cROTATION-WALLPLANE SINGLE dDOUBLE dALTERNATING cSHAKING bMOVEMENT-WALLPLANE
CURVE QUARTER SMALL eMEDIUM eLARGE eLARGEST dHALF-CIRCLE SMALL eMEDIUM eLARGE eLARGEST
dTHREE-QUARTER CIRCLE SMALL fMEDIUM cHUMP SMALL dMEDIUM dLARGE cLOOP SMALL dMEDIUM dLARGE dSMALL
DOUBLE cWAVE CURVE DOUBLE SMALL fMEDIUM fLARGE eTRIPLE SMALL fMEDIUM fLARGE cCURVE THEN STRAIGHT
cCURVED CROSS SMALL eMEDIUM bROTATION-WALLPLANE SINGLE cDOUBLE cALTERNATE bMOVEMENT-WALLPLANE
SHAKING cCURVE HITTING FRONT WALL cHUMP HITTING FRONT WALL cLOOP HITTING FRONT WALL cWAVE HITTING
FRONT WALL bROTATION-WALLPLANE SINGLE HITTING FRONT WALL cDOUBLE HITTING FRONT WALL cALTERNATING
HITTING FRONT WALL bMOVEMENT-WALLPLANE CURVE HITTING CHEST cHUMP HITTING CHEST cLOOP HITTING CHEST
cWAVE HITTING CHEST bROTATION-WALLPLANE SINGLE HITTING CHEST cDOUBLE HITTING CHEST cALTERNATING
HITTING CHEST bMOVEMENT-WALLPLANE WAVE DIAGONAL PATH SMALL fMEDIUM fLARGE bMOVEMENT-FLOORPLANE
CURVE HITTING CEILING SMALL fLARGE cHUMP HITTING CEILING SMALL DOUBLE fLARGE DOUBLE fSMALL TRIPLE
fLARGE TRIPLE cLOOP HITTING CEILING SMALL SINGLE fLARGE SINGLE fSMALL DOUBLE fLARGE DOUBLE cWAVE
HITTING CEILING SMALL fLARGE bROTATION-FLOORPLANE SINGLE HITTING CEILING cDOUBLE HITTING CEILING
cALTERNATING HITTING CEILING bMOVEMENT-FLOORPLANE CURVE HITTING FLOOR SMALL fLARGE cHUMP HITTING
FLOOR SMALL DOUBLE fLARGE DOUBLE fTRIPLE SMALL TRIPLE gLARGE TRIPLE cLOOP HITTING FLOOR SMALL
SINGLE fLARGE SINGLE fSMALL DOUBLE fLARGE DOUBLE cWAVE HITTING FLOOR SMALL fLARGE
bROTATION-FLOORPLANE SINGLE HITTING FLOOR cDOUBLE HITTING FLOOR cALTERNATING HITTING FLOOR
bMOVEMENT-FLOORPLANE CURVE SMALL dMEDIUM dLARGE dLARGEST dCOMBINED cHUMP SMALL cLOOP SMALL cWAVE
SNAKE dSMALL dLARGE bROTATION-FLOORPLANE SINGLE cDOUBLE cALTERNATING bMOVEMENT-FLOORPLANE SHAKING
PARALLEL bMOVEMENT-WALLPLANE ARM CIRCLE SMALL SINGLE eMEDIUM SINGLE eSMALL DOUBLE eMEDIUM DOUBLE
bMOVEMENT-FLOORPLANE ARM CIRCLE HITTING WALL SMALL SINGLE gMEDIUM SINGLE gLARGE SINGLE gSMALL
DOUBLE gMEDIUM DOUBLE gLARGE DOUBLE bMOVEMENT-WALLPLANE WRIST CIRCLE FRONT SINGLE fDOUBLE
bMOVEMENT-FLOORPLANE WRIST CIRCLE HITTING WALL SINGLE gDOUBLE bMOVEMENT-WALLPLANE FINGER CIRCLES
SINGLE eDOUBLE bMOVEMENT-FLOORPLANE FINGER CIRCLES HITTING WALL SINGLE gDOUBLE bDYNAMIC ARROWHEAD
SMALL dLARGE cFAST cSLOW cTENSE cRELAXED cSIMULTANEOUS dALTERNATING cEVERY OTHER TIME cGRADUAL
bHEAD cRIM cMOVEMENT-WALLPLANE STRAIGHT dTILT cMOVEMENT-FLOORPLANE STRAIGHT cMOVEMENT-WALLPLANE
CURVE cMOVEMENT-FLOORPLANE CURVE cMOVEMENT CIRCLE bFACE DIRECTION POSITION NOSE FORWARD TILTING fUP
OR DOWN iTILTING bEYEBROWS STRAIGHT UP dNEUTRAL dDOWN bDREAMY EYEBROWS NEUTRAL DOWN dDOWN NEUTRAL
dUP NEUTRAL dNEUTRAL UP bFOREHEAD NEUTRAL cCONTACT cWRINKLED bEYES OPEN cSQUEEZED cCLOSED bEYE
BLINK SINGLE dMULTIPLE bEYES HALF OPEN cWIDE OPEN cHALF CLOSED cWIDENING MOVEMENT bEYE WINK
bEYELASHES UP cDOWN cFLUTTERING bEYEGAZE-WALLPLANE STRAIGHT dDOUBLE dALTERNATING
bEYEGAZE-FLOORPLANE STRAIGHT dDOUBLE dALTERNATING bEYEGAZE-WALLPLANE CURVED bEYEGAZE-FLOORPLANE
CURVED bEYEGAZE-WALLPLANE CIRCLING bCHEEKS PUFFED cNEUTRAL cSUCKED bTENSE CHEEKS HIGH dMIDDLE dLOW
bEARS bNOSE NEUTRAL cCONTACT cWRINKLES cWIGGLES bAIR BLOWING OUT cSUCKING IN cBLOW SMALL ROTATIONS
cSUCK SMALL ROTATIONS bBREATH INHALE cEXHALE bMOUTH CLOSED NEUTRAL dFORWARD dCONTACT cSMILE
dWRINKLED dOPEN cFROWN dWRINKLED dOPEN cOPEN CIRCLE dFORWARD dWRINKLED dOVAL eWRINKLED eYAWN
dRECTANGLE eWRINKLED eYAWN cKISS dFORWARD dWRINKLED cTENSE dFORWARD dSUCKED bLIPS PRESSED TOGETHER
bLIP LOWER OVER UPPER cUPPER OVER LOWER bMOUTH CORNERS cWRINKLES SINGLE dDOUBLE bTONGUE STICKING
OUT FAR cLICKING LIPS cTIP BETWEEN LIPS dTOUCHING INSIDE MOUTH cINSIDE MOUTH RELAXED cMOVES AGAINST
CHEEK cCENTRE STICKING OUT dINSIDE MOUTH bTEETH cMOVEMENT cON TONGUE eMOVEMENT dLIPS eMOVEMENT
cBITE LIPS bMOVEMENT-WALLPLANE JAW bMOVEMENT-FLOORPLANE JAW bNECK bHAIR bEXCITEMENT bSHOULDER HIP
SPINE dPOSITIONS bWALLPLANE SHOULDER HIP MOVE bFLOORPLANE SHOULDER HIP MOVE bSHOULDER TILTING FROM
WAIST bTORSO-WALLPLANE STRAIGHT STRETCH cCURVED BEND bTORSO-FLOORPLANE TWISTING bUPPER BODY TILTING
FROM HIP JOINTS bLIMB COMBINATION cLENGTH-1 cLENGTH-2 cLENGTH-3 cLENGTH-4 cLENGTH-5 cLENGTH-6
cLENGTH-7 bFINGER bLOCATION-WALLPLANE SPACE bLOCATION-FLOORPLANE SPACE bLOCATION HEIGHT cWIDTH
cDEPTH cHEAD NECK cTORSO cLIMBS DIGITS bCOMMA bFULL STOP bSEMICOLON bCOLON bPARENTHESIS @1DA9B
SIGNWRITING FILL MODIFIER-2 cMODIFIER-3 cMODIFIER-4 cMODIFIER-5 cMODIFIER-6 @1DAA1 SIGNWRITING
ROTATION MODIFIER-2 cMODIFIER-3 cMODIFIER-4 cMODIFIER-5 cMODIFIER-6 cMODIFIER-7 cMODIFIER-8
cMODIFIER-9 cMODIFIER-10 cMODIFIER-11 cMODIFIER-12 cMODIFIER-13 cMODIFIER-14 cMODIFIER-15
cMODIFIER-16 @1DF00 LATIN SMALL LETTER FENG DIGRAPH WITH TRILL dREVERSED SCRIPT G bLETTER SMALL
CAPITAL TURNED G bSMALL LETTER REVERSED K bLETTER SMALL CAPITAL L WITH BELT bSMALL LETTER LEZH WITH
RETROFLEX HOOK dTURNED Y WITH BELT dREVERSED ENG dTURNED R WITH LONG LEG AND RETROFLEX HOOK dT WITH
HOOK AND RETROFLEX HOOK bLETTER RETROFLEX CLICK WITH RETROFLEX HOOK bSMALL LETTER ESH WITH DOUBLE
BAR hAND CURL dTURNED T WITH CURL bLETTER INVERTED GLOTTAL STOP WITH CURL cSTRETCHED C WITH CURL
cSMALL CAPITAL TURNED K bSMALL LETTER L WITH FISHHOOK dDEZH DIGRAPH WITH PALATAL HOOK dL WITH BELT
AND PALATAL HOOK dENG WITH PALATAL HOOK dTURNED R WITH PALATAL HOOK dR WITH FISHHOOK AND PALATAL
HOOK dTESH DIGRAPH WITH PALATAL HOOK dEZH WITH PALATAL HOOK dDEZH DIGRAPH WITH RETROFLEX HOOK dI
WITH STROKE AND RETROFLEX HOOK dO WITH RETROFLEX HOOK dTESH DIGRAPH WITH RETROFLEX HOOK dC WITH
RETROFLEX HOOK dS WITH CURL @1E000 COMBINING GLAGOLITIC LETTER AZU dBUKY dVEDE dGLAGOLI dDOBRO
dYESTU dZHIVETE @1E008 COMBINING GLAGOLITIC LETTER ZEMLJA dIZHE dINITIAL IZHE dI dDJERVI dKAKO
dLJUDIJE dMYSLITE dNASHI dONU dPOKOJI dRITSI dSLOVO dTVRIDO dUKU dFRITU dHERU @1E01B COMBINING
GLAGOLITIC LETTER SHTA dTSI dCHRIVI dSHA dYERU dYERI dYATI @1E023 COMBINING GLAGOLITIC LETTER YU
dSMALL YUS @1E026 COMBINING GLAGOLITIC LETTER YO dIOTATED SMALL YUS dBIG YUS dIOTATED BIG YUS dFITA
@1E100 NYIAKENG PUACHUE HMONG LETTER MA eTSA eNTA eTA eHA eNA eXA eNKA eCA eLA eSA eZA eNCA eNTSA
eKA eDA eNYA eNRA eVA eNTXA eTXA eFA eRA eQA eYA eNQA ePA eXYA eNPA eDLA eNPLA eHAH eMLA ePLA eGA
eRRA eA eAA eI eU eO eOO eE eEE eW @1E130 NYIAKENG PUACHUE HMONG TONE-B dTONE-M dTONE-J dTONE-V
dTONE-S dTONE-G dTONE-D dSIGN FOR PERSON fTHING fLOCATION fANIMAL fINVERTEBRATE eXW XW dSYLLABLE
LENGTHENER @1E140 NYIAKENG PUACHUE HMONG DIGIT ZERO eONE eTWO eTHREE eFOUR eFIVE eSIX eSEVEN eEIGHT
eNINE @1E14E NYIAKENG PUACHUE HMONG LOGOGRAM NYAJ dCIRCLED CA @1E290 TOTO LETTER PA cBA cTA cDA cKA
cGA cMA cNA cNGA cSA cCHA cYA cWA cJA cHA cRA cLA cI cBREATHY I cIU cBREATHY IU cU cE cBREATHY E
cEO cBREATHY EO cO cAE cBREATHY AE cA bSIGN RISING TONE @1E2C0 WANCHO LETTER AA cA cBA cCA cDA cGA
cYA cPHA cLA cNA cPA cTA cTHA cFA cSA cSHA cJA cZA cWA cVA cKA cO cAU cRA cMA cKHA cHA cE cI cNGA
cU cLLHA cTSA cTRA cONG cAANG cANG cING cON cEN cAAN cNYA cUEN cYIH bTONE TUP cTUPNI cKOI cKOINI
bDIGIT ZERO cONE cTWO cTHREE cFOUR cFIVE cSIX cSEVEN cEIGHT cNINE @1E2FF WANCHO NGUN SIGN @1E7E0
ETHIOPIC SYLLABLE HHYA cHHYU cHHYI cHHYAA cHHYEE cHHYE cHHYO @1E7E8 ETHIOPIC SYLLABLE GURAGE HHWA
cHHWI cHHWEE cHHWE @1E7ED ETHIOPIC SYLLABLE GURAGE MWI dMWEE @1E7F0 ETHIOPIC SYLLABLE GURAGE QWI
dQWEE dQWE dBWI dBWEE dKWI dKWEE dKWE dGWI dGWEE dGWE dFWI dFWEE dPWI dPWEE @1E800 MENDE KIKAKUI
SYLLABLE M001 KI dM002 KA dM003 KU dM065 KEE dM095 KE dM076 KOO dM048 KO dM179 KUA dM004 WI dM005
WA dM006 WU dM126 WEE dM118 WE dM114 WOO dM045 WO dM194 WUI dM143 WEI dM061 WVI dM049 WVA dM139 WVE
dM007 MIN dM008 MAN dM009 MUN dM059 MEN dM094 MON dM154 MUAN dM189 MUEN dM010 BI dM011 BA dM012 BU
dM150 BEE dM097 BE dM103 BOO dM138 BO dM013 I dM014 A dM015 U dM163 EE dM100 E dM165 OO dM147 O
dM137 EI dM131 IN dM135 IN dM195 AN dM178 EN dM019 SI dM020 SA dM021 SU dM162 SEE dM116 SE dM136
SOO dM079 SO dM196 SIA dM025 LI dM026 LA dM027 LU dM084 LEE dM073 LE dM054 LOO dM153 LO dM110 LONG
LE dM016 DI dM017 DA dM018 DU dM089 DEE dM180 DOO dM181 DO dM022 TI dM023 TA dM024 TU dM091 TEE
dM055 TE dM104 TOO dM069 TO dM028 JI dM029 JA dM030 JU dM157 JEE dM113 JE dM160 JOO dM063 JO dM175
LONG JO dM031 YI dM032 YA dM033 YU dM109 YEE dM080 YE dM141 YOO dM121 YO dM034 FI dM035 FA dM036 FU
dM078 FEE dM075 FE dM133 FOO dM088 FO dM197 FUA dM101 FAN dM037 NIN dM038 NAN dM039 NUN dM117 NEN
dM169 NON dM176 HI dM041 HA dM186 HU dM040 HEE dM096 HE dM042 HOO dM140 HO dM083 HEEI dM128 HOOU
dM053 HIN dM130 HAN dM087 HUN dM052 HEN dM193 HON dM046 HUAN dM090 NGGI dM043 NGGA dM082 NGGU dM115
NGGEE dM146 NGGE dM156 NGGOO dM120 NGGO dM159 NGGAA dM127 NGGUA dM086 LONG NGGE dM106 LONG NGGOO
dM183 LONG NGGO dM155 GI dM111 GA dM168 GU dM190 GEE dM166 GUEI dM167 GUAN dM184 NGEN dM057 NGON
dM177 NGUAN dM068 PI dM099 PA dM050 PU dM081 PEE dM051 PE dM102 POO dM066 PO dM145 MBI dM062 MBA
dM122 MBU dM047 MBEE dM188 MBEE dM072 MBE dM172 MBOO dM174 MBO dM187 MBUU dM161 LONG MBE dM105 LONG
MBOO dM142 LONG MBO dM132 KPI dM092 KPA dM074 KPU dM044 KPEE dM108 KPE dM112 KPOO dM158 KPO dM124
GBI dM056 GBA dM148 GBU dM093 GBEE dM107 GBE dM071 GBOO dM070 GBO dM171 RA dM123 NDI dM129 NDA
dM125 NDU dM191 NDEE dM119 NDE dM067 NDOO dM064 NDO dM152 NJA dM192 NJU dM149 NJEE dM134 NJOO dM182
VI dM185 VA dM151 VU dM173 VEE dM085 VE dM144 VOO dM077 VO dM164 NYIN dM058 NYAN dM170 NYUN dM098
NYEN dM060 NYON @1E8C7 MENDE KIKAKUI DIGIT ONE dTWO dTHREE dFOUR dFIVE dSIX dSEVEN dEIGHT dNINE
cCOMBINING NUMBER TEENS eTENS eHUNDREDS eTHOUSANDS eTEN THOUSANDS eHUNDRED THOUSANDS eMILLIONS
@1E900 ADLAM CAPITAL LETTER ALIF dDAALI dLAAM dMIIM dBA dSINNYIIYHE dPE dBHE dRA dE dFA dI dO dDHA
dYHE dWAW dNUN dKAF dYA dU dJIIM dCHI dHA dQAAF dGA dNYA dTU dNHA dVA dKHA dGBE dZAL dKPO dSHA
bSMALL LETTER ALIF dDAALI dLAAM dMIIM dBA dSINNYIIYHE dPE dBHE dRA dE dFA dI dO dDHA dYHE dWAW dNUN
dKAF dYA dU dJIIM dCHI dHA dQAAF dGA dNYA dTU dNHA dVA dKHA dGBE dZAL dKPO dSHA bALIF LENGTHENER
bVOWEL LENGTHENER bGEMINATION MARK bHAMZA bCONSONANT MODIFIER bGEMINATE CONSONANT MODIFIER bNUKTA
bNASALIZATION MARK @1E950 ADLAM DIGIT ZERO cONE cTWO cTHREE cFOUR cFIVE cSIX cSEVEN cEIGHT cNINE
@1E95E ADLAM INITIAL EXCLAMATION MARK cQUESTION MARK @1EC71 INDIC SIYAQ NUMBER ONE dTWO dTHREE
dFOUR dFIVE dSIX dSEVEN dEIGHT dNINE dTEN dTWENTY dTHIRTY dFORTY dFIFTY dSIXTY dSEVENTY dEIGHTY
dNINETY dONE HUNDRED dTWO HUNDRED dTHREE HUNDRED dFOUR HUNDRED dFIVE HUNDRED dSIX HUNDRED dSEVEN
HUNDRED dEIGHT HUNDRED dNINE HUNDRED dONE THOUSAND dTWO THOUSAND dTHREE THOUSAND dFOUR THOUSAND
dFIVE THOUSAND dSIX THOUSAND dSEVEN THOUSAND dEIGHT THOUSAND dNINE THOUSAND dTEN THOUSAND dTWENTY
THOUSAND dTHIRTY THOUSAND dFORTY THOUSAND dFIFTY THOUSAND dSIXTY THOUSAND dSEVENTY THOUSAND dEIGHTY
THOUSAND dNINETY THOUSAND dLAKH dLAKHAN cLAKH MARK cNUMBER KAROR dKARORAN dPREFIXED ONE eTWO eTHREE
eFOUR eFIVE eSIX eSEVEN eEIGHT eNINE cPLACEHOLDER cFRACTION ONE QUARTER eHALF dTHREE QUARTERS
cRUPEE MARK cNUMBER ALTERNATE ONE eTWO eTEN THOUSAND cALTERNATE LAKH MARK @1ED01 OTTOMAN SIYAQ
NUMBER ONE dTWO dTHREE dFOUR dFIVE dSIX dSEVEN dEIGHT dNINE dTEN dTWENTY dTHIRTY dFORTY dFIFTY
dSIXTY dSEVENTY dEIGHTY dNINETY dONE HUNDRED dTWO HUNDRED dTHREE HUNDRED dFOUR HUNDRED dFIVE
HUNDRED dSIX HUNDRED dSEVEN HUNDRED dEIGHT HUNDRED dNINE HUNDRED dONE THOUSAND dTWO THOUSAND dTHREE
THOUSAND dFOUR THOUSAND dFIVE THOUSAND dSIX THOUSAND dSEVEN THOUSAND dEIGHT THOUSAND dNINE THOUSAND
dTEN THOUSAND dTWENTY THOUSAND dTHIRTY THOUSAND dFORTY THOUSAND dFIFTY THOUSAND dSIXTY THOUSAND
dSEVENTY THOUSAND dEIGHTY THOUSAND dNINETY THOUSAND cMARRATAN cALTERNATE NUMBER TWO eTHREE eFOUR
eFIVE eSIX eSEVEN eEIGHT eNINE eTEN eFOUR HUNDRED eSIX HUNDRED eTWO THOUSAND eTEN THOUSAND
cFRACTION ONE HALF eSIXTH @1EE00 ARABIC MATHEMATICAL ALEF cBEH cJEEM cDAL @1EE05 ARABIC
MATHEMATICAL WAW cZAIN cHAH cTAH cYEH cKAF cLAM cMEEM cNOON cSEEN cAIN cFEH cSAD cQAF cREH cSHEEN
cTEH cTHEH cKHAH cTHAL cDAD cZAH cGHAIN cDOTLESS BEH dNOON dFEH dQAF @1EE21 ARABIC MATHEMATICAL
INITIAL BEH dJEEM @1EE24 ARABIC MATHEMATICAL INITIAL HEH @1EE27 ARABIC MATHEMATICAL INITIAL HAH
@1EE29 ARABIC MATHEMATICAL INITIAL YEH dKAF dLAM dMEEM dNOON dSEEN dAIN dFEH dSAD dQAF @1EE34
ARABIC MATHEMATICAL INITIAL SHEEN dTEH dTHEH dKHAH @1EE39 ARABIC MATHEMATICAL INITIAL DAD @1EE3B
ARABIC MATHEMATICAL INITIAL GHAIN @1EE42 ARABIC MATHEMATICAL TAILED JEEM @1EE47 ARABIC MATHEMATICAL
TAILED HAH @1EE49 ARABIC MATHEMATICAL TAILED YEH @1EE4B ARABIC MATHEMATICAL TAILED LAM @1EE4D
ARABIC MATHEMATICAL TAILED NOON dSEEN dAIN @1EE51 ARABIC MATHEMATICAL TAILED SAD dQAF @1EE54 ARABIC
MATHEMATICAL TAILED SHEEN @1EE57 ARABIC MATHEMATICAL TAILED KHAH @1EE59 ARABIC MATHEMATICAL TAILED
DAD @1EE5B ARABIC MATHEMATICAL TAILED GHAIN @1EE5D ARABIC MATHEMATICAL TAILED DOTLESS NOON @1EE5F
ARABIC MATHEMATICAL TAILED DOTLESS QAF @1EE61 ARABIC MATHEMATICAL STRETCHED BEH dJEEM @1EE64 ARABIC
MATHEMATICAL STRETCHED HEH @1EE67 ARABIC MATHEMATICAL STRETCHED HAH dTAH dYEH dKAF @1EE6C ARABIC
MATHEMATICAL STRETCHED MEEM dNOON dSEEN dAIN dFEH dSAD dQAF @1EE74 ARABIC MATHEMATICAL STRETCHED
SHEEN dTEH dTHEH dKHAH @1EE79 ARABIC MATHEMATICAL STRETCHED DAD dZAH dGHAIN dDOTLESS BEH @1EE7E
ARABIC MATHEMATICAL STRETCHED DOTLESS FEH @1EE80 ARABIC MATHEMATICAL LOOPED ALEF dBEH dJEEM dDAL
dHEH dWAW dZAIN dHAH dTAH dYEH @1EE8B ARABIC MATHEMATICAL LOOPED LAM dMEEM dNOON dSEEN dAIN dFEH
dSAD dQAF dREH dSHEEN dTEH dTHEH dKHAH dTHAL dDAD dZAH dGHAIN @1EEA1 ARABIC MATHEMATICAL
DOUBLE-STRUCK BEH dJEEM dDAL @1EEA5 ARABIC MATHEMATICAL DOUBLE-STRUCK WAW dZAIN dHAH dTAH dYEH
@1EEAB ARABIC MATHEMATICAL DOUBLE-STRUCK LAM dMEEM dNOON dSEEN dAIN dFEH dSAD dQAF dREH dSHEEN dTEH
dTHEH dKHAH dTHAL dDAD dZAH dGHAIN @1EEF0 ARABIC MATHEMATICAL OPERATOR MEEM WITH HAH WITH TATWEEL
dHAH WITH DAL @1F000 MAHJONG TILE EAST WIND cSOUTH WIND cWEST WIND cNORTH WIND cRED DRAGON cGREEN
DRAGON cWHITE DRAGON cONE OF CHARACTERS cTWO OF CHARACTERS cTHREE OF CHARACTERS cFOUR OF CHARACTERS
cFIVE OF CHARACTERS cSIX OF CHARACTERS cSEVEN OF CHARACTERS cEIGHT OF CHARACTERS cNINE OF
CHARACTERS cONE OF BAMBOOS cTWO OF BAMBOOS cTHREE OF BAMBOOS cFOUR OF BAMBOOS cFIVE OF BAMBOOS cSIX
OF BAMBOOS cSEVEN OF BAMBOOS cEIGHT OF BAMBOOS cNINE OF BAMBOOS cONE OF CIRCLES cTWO OF CIRCLES
cTHREE OF CIRCLES cFOUR OF CIRCLES cFIVE OF CIRCLES cSIX OF CIRCLES cSEVEN OF CIRCLES cEIGHT OF
CIRCLES cNINE OF CIRCLES cPLUM cORCHID cBAMBOO cCHRYSANTHEMUM cSPRING cSUMMER cAUTUMN cWINTER
cJOKER cBACK @1F030 DOMINO TILE HORIZONTAL BACK cHORIZONTAL-00-00 cHORIZONTAL-00-01
cHORIZONTAL-00-02 cHORIZONTAL-00-03 cHORIZONTAL-00-04 cHORIZONTAL-00-05 cHORIZONTAL-00-06
cHORIZONTAL-01-00 cHORIZONTAL-01-01 cHORIZONTAL-01-02 cHORIZONTAL-01-03 cHORIZONTAL-01-04
cHORIZONTAL-01-05 cHORIZONTAL-01-06 cHORIZONTAL-02-00 cHORIZONTAL-02-01 cHORIZONTAL-02-02
cHORIZONTAL-02-03 cHORIZONTAL-02-04 cHORIZONTAL-02-05 cHORIZONTAL-02-06 cHORIZONTAL-03-00
cHORIZONTAL-03-01 cHORIZONTAL-03-02 cHORIZONTAL-03-03 cHORIZONTAL-03-04 cHORIZONTAL-03-05
cHORIZONTAL-03-06 cHORIZONTAL-04-00 cHORIZONTAL-04-01 cHORIZONTAL-04-02 cHORIZONTAL-04-03
cHORIZONTAL-04-04 cHORIZONTAL-04-05 cHORIZONTAL-04-06 cHORIZONTAL-05-00 cHORIZONTAL-05-01
cHORIZONTAL-05-02 cHORIZONTAL-05-03 cHORIZONTAL-05-04 cHORIZONTAL-05-05 cHORIZONTAL-05-06
cHORIZONTAL-06-00 cHORIZONTAL-06-01 cHORIZONTAL-06-02 cHORIZONTAL-06-03 cHORIZONTAL-06-04
cHORIZONTAL-06-05 cHORIZONTAL-06-06 cVERTICAL BACK cVERTICAL-00-00 cVERTICAL-00-01 cVERTICAL-00-02
cVERTICAL-00-03 cVERTICAL-00-04 cVERTICAL-00-05 cVERTICAL-00-06 cVERTICAL-01-00 cVERTICAL-01-01
cVERTICAL-01-02 cVERTICAL-01-03 cVERTICAL-01-04 cVERTICAL-01-05 cVERTICAL-01-06 cVERTICAL-02-00
cVERTICAL-02-01 cVERTICAL-02-02 cVERTICAL-02-03 cVERTICAL-02-04 cVERTICAL-02-05 cVERTICAL-02-06
cVERTICAL-03-00 cVERTICAL-03-01 cVERTICAL-03-02 cVERTICAL-03-03 cVERTICAL-03-04 cVERTICAL-03-05
cVERTICAL-03-06 cVERTICAL-04-00 cVERTICAL-04-01 cVERTICAL-04-02 cVERTICAL-04-03 cVERTICAL-04-04
cVERTICAL-04-05 cVERTICAL-04-06 cVERTICAL-05-00 cVERTICAL-05-01 cVERTICAL-05-02 cVERTICAL-05-03
cVERTICAL-05-04 cVERTICAL-05-05 cVERTICAL-05-06 cVERTICAL-06-00 cVERTICAL-06-01 cVERTICAL-06-02
cVERTICAL-06-03 cVERTICAL-06-04 cVERTICAL-06-05 cVERTICAL-06-06 @1F0A0 PLAYING CARD BACK cACE OF
SPADES cTWO OF SPADES cTHREE OF SPADES cFOUR OF SPADES cFIVE OF SPADES cSIX OF SPADES cSEVEN OF
SPADES cEIGHT OF SPADES cNINE OF SPADES cTEN OF SPADES cJACK OF SPADES cKNIGHT OF SPADES cQUEEN OF
SPADES cKING OF SPADES @1F0B1 PLAYING CARD ACE OF HEARTS cTWO OF HEARTS cTHREE OF HEARTS cFOUR OF
HEARTS cFIVE OF HEARTS cSIX OF HEARTS cSEVEN OF HEARTS cEIGHT OF HEARTS cNINE OF HEARTS cTEN OF
HEARTS cJACK OF HEARTS cKNIGHT OF HEARTS cQUEEN OF HEARTS cKING OF HEARTS cRED JOKER @1F0C1 PLAYING
CARD ACE OF DIAMONDS cTWO OF DIAMONDS cTHREE OF DIAMONDS cFOUR OF DIAMONDS cFIVE OF DIAMONDS cSIX
OF DIAMONDS cSEVEN OF DIAMONDS cEIGHT OF DIAMONDS cNINE OF DIAMONDS cTEN OF DIAMONDS cJACK OF
DIAMONDS cKNIGHT OF DIAMONDS cQUEEN OF DIAMONDS cKING OF DIAMONDS cBLACK JOKER @1F0D1 PLAYING CARD
ACE OF CLUBS cTWO OF CLUBS cTHREE OF CLUBS cFOUR OF CLUBS cFIVE OF CLUBS cSIX OF CLUBS cSEVEN OF
CLUBS cEIGHT OF CLUBS cNINE OF CLUBS cTEN OF CLUBS cJACK OF CLUBS cKNIGHT OF CLUBS cQUEEN OF CLUBS
cKING OF CLUBS cWHITE JOKER cFOOL cTRUMP-1 cTRUMP-2 cTRUMP-3 cTRUMP-4 cTRUMP-5 cTRUMP-6 cTRUMP-7
cTRUMP-8 cTRUMP-9 cTRUMP-10 cTRUMP-11 cTRUMP-12 cTRUMP-13 cTRUMP-14 cTRUMP-15 cTRUMP-16 cTRUMP-17
cTRUMP-18 cTRUMP-19 cTRUMP-20 cTRUMP-21 @1F100 DIGIT ZERO FULL STOP cCOMMA bONE COMMA bTWO COMMA
bTHREE COMMA bFOUR COMMA bFIVE COMMA bSIX COMMA bSEVEN COMMA bEIGHT COMMA bNINE COMMA aDINGBAT
CIRCLED SANS-SERIF DIGIT ZERO bNEGATIVE CIRCLED SANS-SERIF DIGIT ZERO aCIRCLED ZERO WITH SLASH
bANTICLOCKWISE ARROW bDOLLAR SIGN WITH OVERLAID BACKSLASH aPARENTHESIZED LATIN CAPITAL LETTER A eB
eC eD eE eF eG eH eI eJ eK eL eM eN eO eP eQ eR eS eT eU eV eW eX eY eZ aTORTOISE SHELL BRACKETED
LATIN CAPITAL LETTER S aCIRCLED ITALIC LATIN CAPITAL LETTER C fR bCD bWZ aCOPYLEFT SYMBOL aSQUARED
LATIN CAPITAL LETTER A eB eC eD eE eF eG eH eI eJ eK eL eM eN eO eP eQ eR eS eT eU eV eW eX eY eZ
bHV bMV bSD bSS bPPV bWC aNEGATIVE CIRCLED LATIN CAPITAL LETTER A fB fC fD fE fF fG fH fI fJ fK fL
fM fN fO fP fQ fR fS fT fU fV fW fX fY fZ aRAISED MC SIGN bMD SIGN bMR SIGN aCIRCLED CC bC WITH
OVERLAID BACKSLASH bHUMAN FIGURE aNEGATIVE SQUARED LATIN CAPITAL LETTER A fB fC fD fE fF fG fH fI
fJ fK fL fM fN fO fP fQ fR fS fT fU fV fW fX fY fZ aCROSSED NEGATIVE SQUARED LATIN CAPITAL LETTER P
aNEGATIVE SQUARED IC cPA cSA cAB cWC aSQUARE DJ aSQUARED CL bCOOL bFREE bID bNEW bNG bOK bSOS bUP
WITH EXCLAMATION MARK bVS bTHREE D bSECOND SCREEN bTWO K bFOUR K bEIGHT K bFIVE POINT ONE bSEVEN
POINT ONE bTWENTY-TWO POINT TWO bSIXTY P bONE HUNDRED TWENTY P bLATIN SMALL LETTER D bHC bHDR
bHI-RES bLOSSLESS bSHV bUHD bVOD aMASK WORK SYMBOL @1F1E6 REGIONAL INDICATOR SYMBOL LETTER A eB eC
eD eE eF eG eH eI eJ eK eL eM eN eO eP eQ eR eS eT eU eV eW eX eY eZ aSQUARE HIRAGANA HOKA aSQUARED
KATAKANA KOKO cSA @1F210 SQUARED CJK UNIFIED IDEOGRAPH-624B dIDEOGRAPH-5B57 dIDEOGRAPH-53CC
bKATAKANA DE bCJK UNIFIED IDEOGRAPH-4E8C dIDEOGRAPH-591A dIDEOGRAPH-89E3 dIDEOGRAPH-5929
dIDEOGRAPH-4EA4 dIDEOGRAPH-6620 dIDEOGRAPH-7121 dIDEOGRAPH-6599 dIDEOGRAPH-524D dIDEOGRAPH-5F8C
dIDEOGRAPH-518D dIDEOGRAPH-65B0 dIDEOGRAPH-521D dIDEOGRAPH-7D42 dIDEOGRAPH-751F dIDEOGRAPH-8CA9
dIDEOGRAPH-58F0 dIDEOGRAPH-5439 dIDEOGRAPH-6F14 dIDEOGRAPH-6295 dIDEOGRAPH-6355 dIDEOGRAPH-4E00
dIDEOGRAPH-4E09 dIDEOGRAPH-904A dIDEOGRAPH-5DE6 dIDEOGRAPH-4E2D dIDEOGRAPH-53F3 dIDEOGRAPH-6307
dIDEOGRAPH-8D70 dIDEOGRAPH-6253 dIDEOGRAPH-7981 dIDEOGRAPH-7A7A dIDEOGRAPH-5408 dIDEOGRAPH-6E80
dIDEOGRAPH-6709 dIDEOGRAPH-6708 dIDEOGRAPH-7533 dIDEOGRAPH-5272 dIDEOGRAPH-55B6 dIDEOGRAPH-914D
@1F240 TORTOISE SHELL BRACKETED CJK UNIFIED IDEOGRAPH-672C fIDEOGRAPH-4E09 fIDEOGRAPH-4E8C
fIDEOGRAPH-5B89 fIDEOGRAPH-70B9 fIDEOGRAPH-6253 fIDEOGRAPH-76D7 fIDEOGRAPH-52DD fIDEOGRAPH-6557
@1F250 CIRCLED IDEOGRAPH ADVANTAGE cACCEPT @1F260 ROUNDED SYMBOL FOR FU dLU dSHOU dXI dSHUANGXI
dCAI @1F300 CYCLONE aFOGGY aCLOSED UMBRELLA aNIGHT WITH STARS aSUNRISE OVER MOUNTAINS aSUNRISE
aCITYSCAPE AT DUSK aSUNSET OVER BUILDINGS aRAINBOW aBRIDGE AT NIGHT aWATER WAVE aVOLCANO aMILKY WAY
aEARTH GLOBE EUROPE-AFRICA cAMERICAS cASIA-AUSTRALIA aGLOBE WITH MERIDIANS aNEW MOON SYMBOL aWAXING
CRESCENT MOON SYMBOL aFIRST QUARTER MOON SYMBOL aWAXING GIBBOUS MOON SYMBOL aFULL MOON SYMBOL
aWANING GIBBOUS MOON SYMBOL aLAST QUARTER MOON SYMBOL aWANING CRESCENT MOON SYMBOL aCRESCENT MOON
aNEW MOON WITH FACE aFIRST QUARTER MOON WITH FACE aLAST QUARTER MOON WITH FACE aFULL MOON WITH FACE
aSUN WITH FACE aGLOWING STAR aSHOOTING STAR aTHERMOMETER aBLACK DROPLET aWHITE SUN cWITH SMALL
CLOUD cBEHIND CLOUD eWITH RAIN aCLOUD WITH RAIN cSNOW cLIGHTNING cTORNADO aFOG aWIND BLOWING FACE
aHOT DOG aTACO aBURRITO aCHESTNUT aSEEDLING aEVERGREEN TREE aDECIDUOUS TREE aPALM TREE aCACTUS aHOT
PEPPER aTULIP aCHERRY BLOSSOM aROSE aHIBISCUS aSUNFLOWER aBLOSSOM aEAR OF MAIZE cRICE aHERB aFOUR
LEAF CLOVER aMAPLE LEAF aFALLEN LEAF aLEAF FLUTTERING IN WIND aMUSHROOM aTOMATO aAUBERGINE aGRAPES
aMELON aWATERMELON aTANGERINE aLEMON aBANANA aPINEAPPLE aRED APPLE aGREEN APPLE aPEAR aPEACH
aCHERRIES aSTRAWBERRY aHAMBURGER aSLICE OF PIZZA aMEAT ON BONE aPOULTRY LEG aRICE CRACKER bBALL
aCOOKED RICE aCURRY AND RICE aSTEAMING BOWL aSPAGHETTI aBREAD aFRENCH FRIES aROASTED SWEET POTATO
aDANGO aODEN aSUSHI aFRIED SHRIMP aFISH CAKE WITH SWIRL DESIGN aSOFT ICE CREAM aSHAVED ICE aICE
CREAM aDOUGHNUT aCOOKIE aCHOCOLATE BAR aCANDY aLOLLIPOP aCUSTARD aHONEY POT aSHORTCAKE aBENTO BOX
aPOT OF FOOD aCOOKING aFORK AND KNIFE aTEACUP WITHOUT HANDLE aSAKE BOTTLE AND CUP aWINE GLASS
aCOCKTAIL GLASS aTROPICAL DRINK aBEER MUG aCLINKING BEER MUGS aBABY BOTTLE aFORK AND KNIFE WITH
PLATE aBOTTLE WITH POPPING CORK aPOPCORN aRIBBON aWRAPPED PRESENT aBIRTHDAY CAKE aJACK-O-LANTERN
aCHRISTMAS TREE aFATHER CHRISTMAS aFIREWORKS aFIREWORK SPARKLER aBALLOON aPARTY POPPER aCONFETTI
BALL aTANABATA TREE aCROSSED FLAGS aPINE DECORATION aJAPANESE DOLLS aCARP STREAMER aWIND CHIME
aMOON VIEWING CEREMONY aSCHOOL SATCHEL aGRADUATION CAP aHEART WITH TIP ON THE LEFT aBOUQUET OF
FLOWERS aMILITARY MEDAL aREMINDER RIBBON aMUSICAL KEYBOARD WITH JACKS aSTUDIO MICROPHONE aLEVEL
SLIDER aCONTROL KNOBS aBEAMED ASCENDING MUSICAL NOTES bDESCENDING MUSICAL NOTES aFILM FRAMES
aADMISSION TICKETS aCAROUSEL HORSE aFERRIS WHEEL aROLLER COASTER aFISHING POLE AND FISH aMICROPHONE
aMOVIE CAMERA aCINEMA aHEADPHONE aARTIST PALETTE aTOP HAT aCIRCUS TENT aTICKET aCLAPPER BOARD
aPERFORMING ARTS aVIDEO GAME aDIRECT HIT aSLOT MACHINE aBILLIARDS aGAME DIE aBOWLING aFLOWER
PLAYING CARDS aMUSICAL NOTE aMULTIPLE MUSICAL NOTES aSAXOPHONE aGUITAR aMUSICAL KEYBOARD aTRUMPET
aVIOLIN aMUSICAL SCORE aRUNNING SHIRT WITH SASH aTENNIS RACQUET AND BALL aSKI AND SKI BOOT
aBASKETBALL AND HOOP aCHEQUERED FLAG aSNOWBOARDER aRUNNER aSURFER aSPORTS MEDAL aTROPHY aHORSE
RACING aAMERICAN FOOTBALL aRUGBY FOOTBALL aSWIMMER aWEIGHT LIFTER aGOLFER aRACING MOTORCYCLE bCAR
aCRICKET BAT AND BALL aVOLLEYBALL aFIELD HOCKEY STICK AND BALL aICE HOCKEY STICK AND PUCK aTABLE
TENNIS PADDLE AND BALL aSNOW CAPPED MOUNTAIN aCAMPING aBEACH WITH UMBRELLA aBUILDING CONSTRUCTION
aHOUSE BUILDINGS aCITYSCAPE aDERELICT HOUSE BUILDING aCLASSICAL BUILDING aDESERT bISLAND aNATIONAL
PARK aSTADIUM aHOUSE BUILDING bWITH GARDEN aOFFICE BUILDING aJAPANESE POST OFFICE aEUROPEAN POST
OFFICE aHOSPITAL aBANK aAUTOMATED TELLER MACHINE aHOTEL aLOVE HOTEL aCONVENIENCE STORE aSCHOOL
aDEPARTMENT STORE aFACTORY aIZAKAYA LANTERN aJAPANESE CASTLE aEUROPEAN CASTLE aWHITE PENNANT aBLACK
PENNANT aWAVING WHITE FLAG bBLACK FLAG aROSETTE aBLACK ROSETTE aLABEL aBADMINTON RACQUET AND
SHUTTLECOCK aBOW AND ARROW aAMPHORA aEMOJI MODIFIER FITZPATRICK TYPE-1-2 dTYPE-3 dTYPE-4 dTYPE-5
dTYPE-6 aRAT aMOUSE aOX aWATER BUFFALO aCOW aTIGER aLEOPARD aRABBIT aCAT aDRAGON aCROCODILE aWHALE
aSNAIL aSNAKE aHORSE aRAM aGOAT aSHEEP aMONKEY aROOSTER aCHICKEN aDOG aPIG aBOAR aELEPHANT aOCTOPUS
aSPIRAL SHELL aBUG aANT aHONEYBEE aLADY BEETLE aFISH aTROPICAL FISH aBLOWFISH aTURTLE aHATCHING
CHICK aBABY CHICK aFRONT-FACING BABY CHICK aBIRD aPENGUIN aKOALA aPOODLE aDROMEDARY CAMEL aBACTRIAN
CAMEL aDOLPHIN aMOUSE FACE aCOW FACE aTIGER FACE aRABBIT FACE aCAT FACE aDRAGON FACE aSPOUTING
WHALE aHORSE FACE aMONKEY FACE aDOG FACE aPIG FACE aFROG FACE aHAMSTER FACE aWOLF FACE aBEAR FACE
aPANDA FACE aPIG NOSE aPAW PRINTS aCHIPMUNK aEYES aEYE aEAR aNOSE aMOUTH aTONGUE aWHITE UP POINTING
BACKHAND INDEX bDOWN POINTING BACKHAND INDEX bLEFT POINTING BACKHAND INDEX bRIGHT POINTING BACKHAND
INDEX aFISTED HAND SIGN aWAVING HAND SIGN aOK HAND SIGN aTHUMBS UP SIGN bDOWN SIGN aCLAPPING HANDS
SIGN aOPEN HANDS SIGN aCROWN aWOMANS HAT aEYEGLASSES aNECKTIE aT-SHIRT aJEANS aDRESS aKIMONO
aBIKINI aWOMANS CLOTHES aPURSE aHANDBAG aPOUCH aMANS SHOE aATHLETIC SHOE aHIGH-HEELED SHOE aWOMANS
SANDAL bBOOTS aFOOTPRINTS aBUST IN SILHOUETTE aBUSTS IN SILHOUETTE aBOY aGIRL aMAN aWOMAN aFAMILY
aMAN AND WOMAN HOLDING HANDS aTWO MEN HOLDING HANDS bWOMEN HOLDING HANDS aPOLICE OFFICER aWOMAN
WITH BUNNY EARS aBRIDE WITH VEIL aPERSON WITH BLOND HAIR aMAN WITH GUA PI MAO cTURBAN aOLDER MAN
bWOMAN aBABY aCONSTRUCTION WORKER aPRINCESS aJAPANESE OGRE bGOBLIN aGHOST aBABY ANGEL
aEXTRATERRESTRIAL ALIEN aALIEN MONSTER aIMP aSKULL aINFORMATION DESK PERSON aGUARDSMAN aDANCER
aLIPSTICK aNAIL POLISH aFACE MASSAGE aHAIRCUT aBARBER POLE aSYRINGE aPILL aKISS MARK aLOVE LETTER
aRING aGEM STONE aKISS aBOUQUET aCOUPLE WITH HEART aWEDDING aBEATING HEART aBROKEN HEART aTWO
HEARTS aSPARKLING HEART aGROWING HEART aHEART WITH ARROW aBLUE HEART aGREEN HEART aYELLOW HEART
aPURPLE HEART aHEART WITH RIBBON aREVOLVING HEARTS aHEART DECORATION aDIAMOND SHAPE WITH A DOT
INSIDE aELECTRIC LIGHT BULB aANGER SYMBOL aBOMB aSLEEPING SYMBOL aCOLLISION SYMBOL aSPLASHING SWEAT
SYMBOL aDROPLET aDASH SYMBOL aPILE OF POO aFLEXED BICEPS aDIZZY SYMBOL aSPEECH BALLOON aTHOUGHT
BALLOON aWHITE FLOWER aHUNDRED POINTS SYMBOL aMONEY BAG aCURRENCY EXCHANGE aHEAVY DOLLAR SIGN
aCREDIT CARD aBANKNOTE WITH YEN SIGN cDOLLAR SIGN cEURO SIGN cPOUND SIGN aMONEY WITH WINGS aCHART
WITH UPWARDS TREND AND YEN SIGN aSEAT aPERSONAL COMPUTER aBRIEFCASE aMINIDISC aFLOPPY DISK aOPTICAL
DISC aDVD aFILE FOLDER aOPEN FILE FOLDER aPAGE WITH CURL bFACING UP aCALENDAR aTEAR-OFF CALENDAR
aCARD INDEX aCHART WITH UPWARDS TREND cDOWNWARDS TREND aBAR CHART aCLIPBOARD aPUSHPIN aROUND
PUSHPIN aPAPERCLIP aSTRAIGHT RULER aTRIANGULAR RULER aBOOKMARK TABS aLEDGER aNOTEBOOK bWITH
DECORATIVE COVER aCLOSED BOOK aOPEN BOOK aGREEN BOOK aBLUE BOOK aORANGE BOOK aBOOKS aNAME BADGE
aSCROLL aMEMO aTELEPHONE RECEIVER aPAGER aFAX MACHINE aSATELLITE ANTENNA aPUBLIC ADDRESS
LOUDSPEAKER aCHEERING MEGAPHONE aOUTBOX TRAY aINBOX TRAY aPACKAGE aE-MAIL SYMBOL aINCOMING ENVELOPE
aENVELOPE WITH DOWNWARDS ARROW ABOVE aCLOSED MAILBOX WITH LOWERED FLAG dRAISED FLAG aOPEN MAILBOX
WITH RAISED FLAG dLOWERED FLAG aPOSTBOX aPOSTAL HORN aNEWSPAPER aMOBILE PHONE cWITH RIGHTWARDS
ARROW AT LEFT aVIBRATION MODE aMOBILE PHONE OFF aNO MOBILE PHONES aANTENNA WITH BARS aCAMERA bWITH
FLASH aVIDEO CAMERA aTELEVISION aRADIO aVIDEOCASSETTE aFILM PROJECTOR aPORTABLE STEREO aPRAYER
BEADS aTWISTED RIGHTWARDS ARROWS aCLOCKWISE RIGHTWARDS AND LEFTWARDS OPEN CIRCLE ARROWS hWITH
CIRCLED ONE OVERLAY bDOWNWARDS AND UPWARDS OPEN CIRCLE ARROWS aANTICLOCKWISE DOWNWARDS AND UPWARDS
OPEN CIRCLE ARROWS aLOW BRIGHTNESS SYMBOL aHIGH BRIGHTNESS SYMBOL aSPEAKER WITH CANCELLATION STROKE
aSPEAKER bWITH ONE SOUND WAVE cTHREE SOUND WAVES aBATTERY aELECTRIC PLUG aLEFT-POINTING MAGNIFYING
GLASS aRIGHT-POINTING MAGNIFYING GLASS aLOCK WITH INK PEN aCLOSED LOCK WITH KEY aKEY aLOCK aOPEN
LOCK aBELL bWITH CANCELLATION STROKE aBOOKMARK aLINK SYMBOL aRADIO BUTTON aBACK WITH LEFTWARDS
ARROW ABOVE aEND WITH LEFTWARDS ARROW ABOVE aON WITH EXCLAMATION MARK WITH LEFT RIGHT ARROW ABOVE
aSOON WITH RIGHTWARDS ARROW ABOVE aTOP WITH UPWARDS ARROW ABOVE aNO ONE UNDER EIGHTEEN SYMBOL
aKEYCAP TEN aINPUT SYMBOL FOR LATIN CAPITAL LETTERS eSMALL LETTERS dNUMBERS dSYMBOLS dLATIN LETTERS
aFIRE aELECTRIC TORCH aWRENCH aHAMMER aNUT AND BOLT aHOCHO aPISTOL aMICROSCOPE aTELESCOPE aCRYSTAL
BALL aSIX POINTED STAR WITH MIDDLE DOT aJAPANESE SYMBOL FOR BEGINNER aTRIDENT EMBLEM aBLACK SQUARE
BUTTON aWHITE SQUARE BUTTON aLARGE RED CIRCLE bBLUE CIRCLE bORANGE DIAMOND bBLUE DIAMOND aSMALL
ORANGE DIAMOND bBLUE DIAMOND aUP-POINTING RED TRIANGLE aDOWN-POINTING RED TRIANGLE aUP-POINTING
SMALL RED TRIANGLE aDOWN-POINTING SMALL RED TRIANGLE aLOWER RIGHT SHADOWED WHITE CIRCLE aUPPER
RIGHT SHADOWED WHITE CIRCLE aCIRCLED CROSS POMMEE aCROSS POMMEE WITH HALF-CIRCLE BELOW bPOMMEE
aNOTCHED LEFT SEMICIRCLE WITH THREE DOTS bRIGHT SEMICIRCLE WITH THREE DOTS aSYMBOL FOR MARKS
CHAPTER aWHITE LATIN CROSS aHEAVY LATIN CROSS aCELTIC CROSS aOM SYMBOL aDOVE OF PEACE aKAABA
aMOSQUE aSYNAGOGUE aMENORAH WITH NINE BRANCHES aBOWL OF HYGIEIA aCLOCK FACE ONE OCLOCK cTWO OCLOCK
cTHREE OCLOCK cFOUR OCLOCK cFIVE OCLOCK cSIX OCLOCK cSEVEN OCLOCK cEIGHT OCLOCK cNINE OCLOCK cTEN
OCLOCK cELEVEN OCLOCK cTWELVE OCLOCK cONE-THIRTY cTWO-THIRTY cTHREE-THIRTY cFOUR-THIRTY
cFIVE-THIRTY cSIX-THIRTY cSEVEN-THIRTY cEIGHT-THIRTY cNINE-THIRTY cTEN-THIRTY cELEVEN-THIRTY
cTWELVE-THIRTY aRIGHT SPEAKER cWITH ONE SOUND WAVE dTHREE SOUND WAVES aBULLHORN bWITH SOUND WAVES
aRINGING BELL aBOOK aCANDLE aMANTELPIECE CLOCK aBLACK SKULL AND CROSSBONES aNO PIRACY aHOLE aMAN IN
BUSINESS SUIT LEVITATING aSLEUTH OR SPY aDARK SUNGLASSES aSPIDER bWEB aJOYSTICK aMAN DANCING aLEFT
HAND TELEPHONE RECEIVER aTELEPHONE RECEIVER WITH PAGE aRIGHT HAND TELEPHONE RECEIVER aWHITE
TOUCHTONE TELEPHONE aBLACK TOUCHTONE TELEPHONE aTELEPHONE ON TOP OF MODEM aCLAMSHELL MOBILE PHONE
aBACK OF ENVELOPE aSTAMPED ENVELOPE aENVELOPE WITH LIGHTNING aFLYING ENVELOPE aPEN OVER STAMPED
ENVELOPE aLINKED PAPERCLIPS aBLACK PUSHPIN aLOWER LEFT PENCIL cBALLPOINT PEN cFOUNTAIN PEN
cPAINTBRUSH cCRAYON aLEFT WRITING HAND aTURNED OK HAND SIGN aRAISED HAND WITH FINGERS SPLAYED
aREVERSED RAISED HAND WITH FINGERS SPLAYED bTHUMBS UP SIGN cDOWN SIGN bVICTORY HAND bHAND WITH
MIDDLE FINGER EXTENDED aRAISED HAND WITH PART BETWEEN MIDDLE AND RING FINGERS aWHITE DOWN POINTING
LEFT HAND INDEX aSIDEWAYS WHITE LEFT POINTING INDEX cRIGHT POINTING INDEX bBLACK LEFT POINTING
INDEX cRIGHT POINTING INDEX aBLACK LEFT POINTING BACKHAND INDEX bRIGHT POINTING BACKHAND INDEX
aSIDEWAYS WHITE UP POINTING INDEX cDOWN POINTING INDEX bBLACK UP POINTING INDEX cDOWN POINTING
INDEX aBLACK UP POINTING BACKHAND INDEX bDOWN POINTING BACKHAND INDEX bHEART aDESKTOP COMPUTER
aKEYBOARD AND MOUSE aTHREE NETWORKED COMPUTERS aPRINTER aPOCKET CALCULATOR aBLACK HARD SHELL FLOPPY
DISK aWHITE HARD SHELL FLOPPY DISK aSOFT SHELL FLOPPY DISK aTAPE CARTRIDGE aWIRED KEYBOARD aONE
BUTTON MOUSE aTWO BUTTON MOUSE aTHREE BUTTON MOUSE aTRACKBALL aOLD PERSONAL COMPUTER aHARD DISK
aSCREEN aPRINTER ICON aFAX ICON aOPTICAL DISC ICON aDOCUMENT WITH TEXT dAND PICTURE cPICTURE aFRAME
WITH PICTURE cTILES cAN X aBLACK FOLDER aFOLDER aOPEN FOLDER aCARD INDEX DIVIDERS bFILE BOX aFILE
CABINET aEMPTY NOTE cPAGE cPAD aNOTE bPAGE bPAD aEMPTY DOCUMENT bPAGE bPAGES aDOCUMENT aPAGE aPAGES
aWASTEBASKET aSPIRAL NOTE PAD bCALENDAR PAD aDESKTOP WINDOW aMINIMIZE aMAXIMIZE aOVERLAP aCLOCKWISE
RIGHT AND LEFT SEMICIRCLE ARROWS aCANCELLATION X aINCREASE FONT SIZE SYMBOL aDECREASE FONT SIZE
SYMBOL aCOMPRESSION aOLD KEY aROLLED-UP NEWSPAPER aPAGE WITH CIRCLED TEXT aSTOCK CHART aDAGGER
KNIFE aLIPS aSPEAKING HEAD IN SILHOUETTE aTHREE RAYS ABOVE cBELOW cLEFT cRIGHT aLEFT SPEECH BUBBLE
aRIGHT SPEECH BUBBLE aTWO SPEECH BUBBLES aTHREE SPEECH BUBBLES aLEFT THOUGHT BUBBLE aRIGHT THOUGHT
BUBBLE aLEFT ANGER BUBBLE aRIGHT ANGER BUBBLE aMOOD BUBBLE aLIGHTNING MOOD BUBBLE bMOOD aBALLOT BOX
WITH BALLOT bSCRIPT X bBOX WITH SCRIPT X bBOLD SCRIPT X bBOX WITH BOLD SCRIPT X aLIGHT CHECK MARK
aBALLOT BOX WITH BOLD CHECK aWORLD MAP aMOUNT FUJI aTOKYO TOWER aSTATUE OF LIBERTY aSILHOUETTE OF
JAPAN aMOYAI aGRINNING FACE cWITH SMILING EYES aFACE WITH TEARS OF JOY aSMILING FACE WITH OPEN
MOUTH fAND SMILING EYES gCOLD SWEAT gTIGHTLY-CLOSED EYES dHALO dHORNS aWINKING FACE aSMILING FACE
WITH SMILING EYES aFACE SAVOURING DELICIOUS FOOD aRELIEVED FACE aSMILING FACE WITH HEART-SHAPED
EYES dSUNGLASSES aSMIRKING FACE aNEUTRAL FACE aEXPRESSIONLESS FACE aUNAMUSED FACE aFACE WITH COLD
SWEAT aPENSIVE FACE aCONFUSED FACE aCONFOUNDED FACE aKISSING FACE aFACE THROWING A KISS aKISSING
FACE WITH SMILING EYES dCLOSED EYES aFACE WITH STUCK-OUT TONGUE eAND WINKING EYE fTIGHTLY-CLOSED
EYES aDISAPPOINTED FACE aWORRIED FACE aANGRY FACE aPOUTING FACE aCRYING FACE aPERSEVERING FACE
aFACE WITH LOOK OF TRIUMPH aDISAPPOINTED BUT RELIEVED FACE aFROWNING FACE WITH OPEN MOUTH
aANGUISHED FACE aFEARFUL FACE aWEARY FACE aSLEEPY FACE aTIRED FACE aGRIMACING FACE aLOUDLY CRYING
FACE aFACE WITH OPEN MOUTH aHUSHED FACE aFACE WITH OPEN MOUTH AND COLD SWEAT bSCREAMING IN FEAR
aASTONISHED FACE aFLUSHED FACE aSLEEPING FACE aDIZZY FACE aFACE WITHOUT MOUTH bWITH MEDICAL MASK
aGRINNING CAT FACE WITH SMILING EYES aCAT FACE WITH TEARS OF JOY aSMILING CAT FACE WITH OPEN MOUTH
eHEART-SHAPED EYES aCAT FACE WITH WRY SMILE aKISSING CAT FACE WITH CLOSED EYES aPOUTING CAT FACE
aCRYING CAT FACE aWEARY CAT FACE aSLIGHTLY FROWNING FACE bSMILING FACE aUPSIDE-DOWN FACE aFACE WITH
ROLLING EYES cNO GOOD GESTURE cOK GESTURE aPERSON BOWING DEEPLY aSEE-NO-EVIL MONKEY aHEAR-NO-EVIL
MONKEY aSPEAK-NO-EVIL MONKEY aHAPPY PERSON RAISING ONE HAND aPERSON RAISING BOTH HANDS IN
CELEBRATION bFROWNING bWITH POUTING FACE cFOLDED HANDS aNORTH WEST POINTING LEAF aSOUTH WEST
POINTING LEAF aNORTH EAST POINTING LEAF aSOUTH EAST POINTING LEAF aTURNED NORTH WEST POINTING LEAF
bSOUTH WEST POINTING LEAF bNORTH EAST POINTING LEAF bSOUTH EAST POINTING LEAF aNORTH WEST POINTING
VINE LEAF aSOUTH WEST POINTING VINE LEAF aNORTH EAST POINTING VINE LEAF aSOUTH EAST POINTING VINE
LEAF aHEAVY NORTH WEST POINTING VINE LEAF bSOUTH WEST POINTING VINE LEAF bNORTH EAST POINTING VINE
LEAF bSOUTH EAST POINTING VINE LEAF aNORTH WEST POINTING BUD aSOUTH WEST POINTING BUD aNORTH EAST
POINTING BUD aSOUTH EAST POINTING BUD aHEAVY NORTH WEST POINTING BUD bSOUTH WEST POINTING BUD
bNORTH EAST POINTING BUD bSOUTH EAST POINTING BUD aHOLLOW QUILT SQUARE ORNAMENT eIN BLACK SQUARE
aSOLID QUILT SQUARE ORNAMENT eIN BLACK SQUARE aLEFTWARDS ROCKET aUPWARDS ROCKET aRIGHTWARDS ROCKET
aDOWNWARDS ROCKET aSCRIPT LIGATURE ET ORNAMENT aHEAVY SCRIPT LIGATURE ET ORNAMENT aLIGATURE OPEN ET
ORNAMENT aHEAVY LIGATURE OPEN ET ORNAMENT bAMPERSAND ORNAMENT aSWASH AMPERSAND ORNAMENT aSANS-SERIF
HEAVY DOUBLE TURNED COMMA QUOTATION MARK ORNAMENT dCOMMA QUOTATION MARK ORNAMENT cLOW DOUBLE COMMA
QUOTATION MARK ORNAMENT aHEAVY INTERROBANG ORNAMENT aSANS-SERIF INTERROBANG ORNAMENT aHEAVY
SANS-SERIF INTERROBANG ORNAMENT aVERY HEAVY SOLIDUS cREVERSE SOLIDUS aCHECKER BOARD aREVERSE
CHECKER BOARD aROCKET aHELICOPTER aSTEAM LOCOMOTIVE aRAILWAY CAR aHIGH-SPEED TRAIN cWITH BULLET
NOSE aTRAIN aMETRO aLIGHT RAIL aSTATION aTRAM bCAR aBUS aONCOMING BUS aTROLLEYBUS aBUS STOP
aMINIBUS aAMBULANCE aFIRE ENGINE aPOLICE CAR aONCOMING POLICE CAR aTAXI aONCOMING TAXI aAUTOMOBILE
aONCOMING AUTOMOBILE aRECREATIONAL VEHICLE aDELIVERY TRUCK aARTICULATED LORRY aTRACTOR aMONORAIL
aMOUNTAIN RAILWAY aSUSPENSION RAILWAY aMOUNTAIN CABLEWAY aAERIAL TRAMWAY aSHIP aROWBOAT aSPEEDBOAT
aHORIZONTAL TRAFFIC LIGHT aVERTICAL TRAFFIC LIGHT aCONSTRUCTION SIGN aPOLICE CARS REVOLVING LIGHT
aTRIANGULAR FLAG ON POST aDOOR aNO ENTRY SIGN aSMOKING SYMBOL aNO SMOKING SYMBOL aPUT LITTER IN ITS
PLACE SYMBOL aDO NOT LITTER SYMBOL aPOTABLE WATER SYMBOL aNON-POTABLE WATER SYMBOL aBICYCLE aNO
BICYCLES aBICYCLIST aMOUNTAIN BICYCLIST aPEDESTRIAN aNO PEDESTRIANS aCHILDREN CROSSING aMENS SYMBOL
aWOMENS SYMBOL aRESTROOM aBABY SYMBOL aTOILET aWATER CLOSET aSHOWER aBATH aBATHTUB aPASSPORT
CONTROL aCUSTOMS aBAGGAGE CLAIM aLEFT LUGGAGE aTRIANGLE WITH ROUNDED CORNERS aPROHIBITED SIGN
aCIRCLED INFORMATION SOURCE aBOYS SYMBOL aGIRLS SYMBOL aCOUCH AND LAMP aSLEEPING ACCOMMODATION
aSHOPPING BAGS aBELLHOP BELL aBED aPLACE OF WORSHIP aOCTAGONAL SIGN aSHOPPING TROLLEY aSTUPA
aPAGODA aHINDU TEMPLE aHUT aELEVATOR @1F6DD PLAYGROUND SLIDE aWHEEL aRING BUOY aHAMMER AND WRENCH
aSHIELD aOIL DRUM aMOTORWAY aRAILWAY TRACK aMOTOR BOAT aUP-POINTING MILITARY AIRPLANE bAIRPLANE
bSMALL AIRPLANE aSMALL AIRPLANE aNORTHEAST-POINTING AIRPLANE aAIRPLANE DEPARTURE bARRIVING @1F6F0
SATELLITE aONCOMING FIRE ENGINE aDIESEL LOCOMOTIVE aPASSENGER SHIP aSCOOTER aMOTOR SCOOTER aCANOE
aSLED aFLYING SAUCER aSKATEBOARD aAUTO RICKSHAW aPICKUP TRUCK aROLLER SKATE @1F700 ALCHEMICAL
SYMBOL FOR QUINTESSENCE dAIR dFIRE dEARTH dWATER dAQUAFORTIS dAQUA REGIA eREGIA-2 eVITAE eVITAE-2
dVINEGAR dVINEGAR-2 dVINEGAR-3 dSULFUR dPHILOSOPHERS SULFUR dBLACK SULFUR dMERCURY SUBLIMATE
eSUBLIMATE-2 eSUBLIMATE-3 dCINNABAR dSALT dNITRE dVITRIOL dVITRIOL-2 dROCK SALT eSALT-2 dGOLD
dSILVER dIRON ORE eORE-2 dCROCUS OF IRON dREGULUS OF IRON dCOPPER ORE dIRON-COPPER ORE dSUBLIMATE
OF COPPER dCROCUS OF COPPER fCOPPER-2 dCOPPER ANTIMONIATE dSALT OF COPPER ANTIMONIATE dSUBLIMATE OF
SALT OF COPPER dVERDIGRIS dTIN ORE dLEAD ORE dANTIMONY ORE dSUBLIMATE OF ANTIMONY dSALT OF ANTIMONY
dSUBLIMATE OF SALT OF ANTIMONY dVINEGAR OF ANTIMONY dREGULUS OF ANTIMONY fANTIMONY-2 dREGULUS
dREGULUS-2 dREGULUS-3 dREGULUS-4 dALKALI dALKALI-2 dMARCASITE dSAL-AMMONIAC dARSENIC dREALGAR
dREALGAR-2 dAURIPIGMENT dBISMUTH ORE dTARTAR dTARTAR-2 dQUICK LIME dBORAX dBORAX-2 dBORAX-3 dALUM
dOIL dSPIRIT dTINCTURE dGUM dWAX dPOWDER dCALX dTUTTY dCAPUT MORTUUM dSCEPTER OF JOVE dCADUCEUS
dTRIDENT dSTARRED TRIDENT dLODESTONE dSOAP dURINE dHORSE DUNG dASHES dPOT ASHES dBRICK dPOWDERED
BRICK dAMALGAM dSTRATUM SUPER STRATUM fSTRATUM-2 dSUBLIMATION dPRECIPITATE dDISTILL dDISSOLVE
dDISSOLVE-2 dPURIFY dPUTREFACTION dCRUCIBLE dCRUCIBLE-2 dCRUCIBLE-3 dCRUCIBLE-4 dCRUCIBLE-5
dALEMBIC dBATH OF MARY fVAPOURS dRETORT dHOUR dNIGHT dDAY-NIGHT dMONTH dHALF DRAM eOUNCE @1F780
BLACK LEFT-POINTING ISOSCELES RIGHT TRIANGLE bUP-POINTING ISOSCELES RIGHT TRIANGLE bRIGHT-POINTING
ISOSCELES RIGHT TRIANGLE bDOWN-POINTING ISOSCELES RIGHT TRIANGLE bSLIGHTLY SMALL CIRCLE aMEDIUM
BOLD WHITE CIRCLE aBOLD WHITE CIRCLE aHEAVY WHITE CIRCLE aVERY HEAVY WHITE CIRCLE aEXTREMELY HEAVY
WHITE CIRCLE aWHITE CIRCLE CONTAINING BLACK SMALL CIRCLE aROUND TARGET aBLACK TINY SQUARE bSLIGHTLY
SMALL SQUARE aLIGHT WHITE SQUARE aMEDIUM WHITE SQUARE aBOLD WHITE SQUARE aHEAVY WHITE SQUARE aVERY
HEAVY WHITE SQUARE aEXTREMELY HEAVY WHITE SQUARE aWHITE SQUARE CONTAINING BLACK VERY SMALL SQUARE
eMEDIUM SQUARE aSQUARE TARGET aBLACK TINY DIAMOND bVERY SMALL DIAMOND bMEDIUM SMALL DIAMOND aWHITE
DIAMOND CONTAINING BLACK VERY SMALL DIAMOND eMEDIUM DIAMOND aDIAMOND TARGET aBLACK TINY LOZENGE
bVERY SMALL LOZENGE bMEDIUM SMALL LOZENGE aWHITE LOZENGE CONTAINING BLACK SMALL LOZENGE aTHIN GREEK
CROSS aLIGHT GREEK CROSS aMEDIUM GREEK CROSS aBOLD GREEK CROSS aVERY BOLD GREEK CROSS bHEAVY GREEK
CROSS aEXTREMELY HEAVY GREEK CROSS aTHIN SALTIRE aLIGHT SALTIRE aMEDIUM SALTIRE aBOLD SALTIRE
aHEAVY SALTIRE aVERY HEAVY SALTIRE aEXTREMELY HEAVY SALTIRE aLIGHT FIVE SPOKED ASTERISK aMEDIUM
FIVE SPOKED ASTERISK aBOLD FIVE SPOKED ASTERISK aHEAVY FIVE SPOKED ASTERISK aVERY HEAVY FIVE SPOKED
ASTERISK aEXTREMELY HEAVY FIVE SPOKED ASTERISK aLIGHT SIX SPOKED ASTERISK aMEDIUM SIX SPOKED
ASTERISK aBOLD SIX SPOKED ASTERISK aHEAVY SIX SPOKED ASTERISK aVERY HEAVY SIX SPOKED ASTERISK
aEXTREMELY HEAVY SIX SPOKED ASTERISK aLIGHT EIGHT SPOKED ASTERISK aMEDIUM EIGHT SPOKED ASTERISK
aBOLD EIGHT SPOKED ASTERISK aHEAVY EIGHT SPOKED ASTERISK aVERY HEAVY EIGHT SPOKED ASTERISK aLIGHT
THREE POINTED BLACK STAR aMEDIUM THREE POINTED BLACK STAR aTHREE POINTED BLACK STAR aMEDIUM THREE
POINTED PINWHEEL STAR aLIGHT FOUR POINTED BLACK STAR aMEDIUM FOUR POINTED BLACK STAR aFOUR POINTED
BLACK STAR aMEDIUM FOUR POINTED PINWHEEL STAR aREVERSE LIGHT FOUR POINTED PINWHEEL STAR aLIGHT FIVE
POINTED BLACK STAR aHEAVY FIVE POINTED BLACK STAR aMEDIUM SIX POINTED BLACK STAR aHEAVY SIX POINTED
BLACK STAR aSIX POINTED PINWHEEL STAR aMEDIUM EIGHT POINTED BLACK STAR aHEAVY EIGHT POINTED BLACK
STAR aVERY HEAVY EIGHT POINTED BLACK STAR aHEAVY EIGHT POINTED PINWHEEL STAR aLIGHT TWELVE POINTED
BLACK STAR aHEAVY TWELVE POINTED BLACK STAR dPINWHEEL STAR aCIRCLED TRIANGLE aNEGATIVE CIRCLED
TRIANGLE aCIRCLED SQUARE aNEGATIVE CIRCLED SQUARE @1F7E0 LARGE ORANGE CIRCLE bYELLOW CIRCLE bGREEN
CIRCLE bPURPLE CIRCLE bBROWN CIRCLE bRED SQUARE bBLUE SQUARE bORANGE SQUARE bYELLOW SQUARE bGREEN
SQUARE bPURPLE SQUARE bBROWN SQUARE @1F7F0 HEAVY EQUALS SIGN @1F800 LEFTWARDS ARROW WITH SMALL
TRIANGLE ARROWHEAD aUPWARDS ARROW WITH SMALL TRIANGLE ARROWHEAD aRIGHTWARDS ARROW WITH SMALL
TRIANGLE ARROWHEAD aDOWNWARDS ARROW WITH SMALL TRIANGLE ARROWHEAD aLEFTWARDS ARROW WITH MEDIUM
TRIANGLE ARROWHEAD aUPWARDS ARROW WITH MEDIUM TRIANGLE ARROWHEAD aRIGHTWARDS ARROW WITH MEDIUM
TRIANGLE ARROWHEAD aDOWNWARDS ARROW WITH MEDIUM TRIANGLE ARROWHEAD aLEFTWARDS ARROW WITH LARGE
TRIANGLE ARROWHEAD aUPWARDS ARROW WITH LARGE TRIANGLE ARROWHEAD aRIGHTWARDS ARROW WITH LARGE
TRIANGLE ARROWHEAD aDOWNWARDS ARROW WITH LARGE TRIANGLE ARROWHEAD @1F810 LEFTWARDS ARROW WITH SMALL
EQUILATERAL ARROWHEAD aUPWARDS ARROW WITH SMALL EQUILATERAL ARROWHEAD aRIGHTWARDS ARROW WITH SMALL
EQUILATERAL ARROWHEAD aDOWNWARDS ARROW WITH SMALL EQUILATERAL ARROWHEAD aLEFTWARDS ARROW WITH
EQUILATERAL ARROWHEAD aUPWARDS ARROW WITH EQUILATERAL ARROWHEAD aRIGHTWARDS ARROW WITH EQUILATERAL
ARROWHEAD aDOWNWARDS ARROW WITH EQUILATERAL ARROWHEAD aHEAVY LEFTWARDS ARROW WITH EQUILATERAL
ARROWHEAD bUPWARDS ARROW WITH EQUILATERAL ARROWHEAD bRIGHTWARDS ARROW WITH EQUILATERAL ARROWHEAD
bDOWNWARDS ARROW WITH EQUILATERAL ARROWHEAD bLEFTWARDS ARROW WITH LARGE EQUILATERAL ARROWHEAD
bUPWARDS ARROW WITH LARGE EQUILATERAL ARROWHEAD bRIGHTWARDS ARROW WITH LARGE EQUILATERAL ARROWHEAD
bDOWNWARDS ARROW WITH LARGE EQUILATERAL ARROWHEAD aLEFTWARDS TRIANGLE-HEADED ARROW WITH NARROW
SHAFT aUPWARDS TRIANGLE-HEADED ARROW WITH NARROW SHAFT aRIGHTWARDS TRIANGLE-HEADED ARROW WITH
NARROW SHAFT aDOWNWARDS TRIANGLE-HEADED ARROW WITH NARROW SHAFT aLEFTWARDS TRIANGLE-HEADED ARROW
WITH MEDIUM SHAFT aUPWARDS TRIANGLE-HEADED ARROW WITH MEDIUM SHAFT aRIGHTWARDS TRIANGLE-HEADED
ARROW WITH MEDIUM SHAFT aDOWNWARDS TRIANGLE-HEADED ARROW WITH MEDIUM SHAFT aLEFTWARDS
TRIANGLE-HEADED ARROW WITH BOLD SHAFT aUPWARDS TRIANGLE-HEADED ARROW WITH BOLD SHAFT aRIGHTWARDS
TRIANGLE-HEADED ARROW WITH BOLD SHAFT aDOWNWARDS TRIANGLE-HEADED ARROW WITH BOLD SHAFT aLEFTWARDS
TRIANGLE-HEADED ARROW WITH HEAVY SHAFT aUPWARDS TRIANGLE-HEADED ARROW WITH HEAVY SHAFT aRIGHTWARDS
TRIANGLE-HEADED ARROW WITH HEAVY SHAFT aDOWNWARDS TRIANGLE-HEADED ARROW WITH HEAVY SHAFT aLEFTWARDS
TRIANGLE-HEADED ARROW WITH VERY HEAVY SHAFT aUPWARDS TRIANGLE-HEADED ARROW WITH VERY HEAVY SHAFT
aRIGHTWARDS TRIANGLE-HEADED ARROW WITH VERY HEAVY SHAFT aDOWNWARDS TRIANGLE-HEADED ARROW WITH VERY
HEAVY SHAFT aLEFTWARDS FINGER-POST ARROW aUPWARDS FINGER-POST ARROW aRIGHTWARDS FINGER-POST ARROW
aDOWNWARDS FINGER-POST ARROW aLEFTWARDS SQUARED ARROW aUPWARDS SQUARED ARROW aRIGHTWARDS SQUARED
ARROW aDOWNWARDS SQUARED ARROW aLEFTWARDS COMPRESSED ARROW aUPWARDS COMPRESSED ARROW aRIGHTWARDS
COMPRESSED ARROW aDOWNWARDS COMPRESSED ARROW aLEFTWARDS HEAVY COMPRESSED ARROW aUPWARDS HEAVY
COMPRESSED ARROW aRIGHTWARDS HEAVY COMPRESSED ARROW aDOWNWARDS HEAVY COMPRESSED ARROW aLEFTWARDS
HEAVY ARROW aUPWARDS HEAVY ARROW aRIGHTWARDS HEAVY ARROW aDOWNWARDS HEAVY ARROW @1F850 LEFTWARDS
SANS-SERIF ARROW aUPWARDS SANS-SERIF ARROW aRIGHTWARDS SANS-SERIF ARROW aDOWNWARDS SANS-SERIF ARROW
aNORTH WEST SANS-SERIF ARROW bEAST SANS-SERIF ARROW aSOUTH EAST SANS-SERIF ARROW bWEST SANS-SERIF
ARROW aLEFT RIGHT SANS-SERIF ARROW aUP DOWN SANS-SERIF ARROW @1F860 WIDE-HEADED LEFTWARDS LIGHT
BARB ARROW bUPWARDS LIGHT BARB ARROW bRIGHTWARDS LIGHT BARB ARROW bDOWNWARDS LIGHT BARB ARROW
bNORTH WEST LIGHT BARB ARROW cEAST LIGHT BARB ARROW bSOUTH EAST LIGHT BARB ARROW cWEST LIGHT BARB
ARROW bLEFTWARDS BARB ARROW bUPWARDS BARB ARROW bRIGHTWARDS BARB ARROW bDOWNWARDS BARB ARROW bNORTH
WEST BARB ARROW cEAST BARB ARROW bSOUTH EAST BARB ARROW cWEST BARB ARROW bLEFTWARDS MEDIUM BARB
ARROW bUPWARDS MEDIUM BARB ARROW bRIGHTWARDS MEDIUM BARB ARROW bDOWNWARDS MEDIUM BARB ARROW bNORTH
WEST MEDIUM BARB ARROW cEAST MEDIUM BARB ARROW bSOUTH EAST MEDIUM BARB ARROW cWEST MEDIUM BARB
ARROW bLEFTWARDS HEAVY BARB ARROW bUPWARDS HEAVY BARB ARROW bRIGHTWARDS HEAVY BARB ARROW bDOWNWARDS
HEAVY BARB ARROW bNORTH WEST HEAVY BARB ARROW cEAST HEAVY BARB ARROW bSOUTH EAST HEAVY BARB ARROW
cWEST HEAVY BARB ARROW bLEFTWARDS VERY HEAVY BARB ARROW bUPWARDS VERY HEAVY BARB ARROW bRIGHTWARDS
VERY HEAVY BARB ARROW bDOWNWARDS VERY HEAVY BARB ARROW bNORTH WEST VERY HEAVY BARB ARROW cEAST VERY
HEAVY BARB ARROW bSOUTH EAST VERY HEAVY BARB ARROW cWEST VERY HEAVY BARB ARROW @1F890 LEFTWARDS
TRIANGLE ARROWHEAD aUPWARDS TRIANGLE ARROWHEAD aRIGHTWARDS TRIANGLE ARROWHEAD aDOWNWARDS TRIANGLE
ARROWHEAD aLEFTWARDS WHITE ARROW WITHIN TRIANGLE ARROWHEAD aUPWARDS WHITE ARROW WITHIN TRIANGLE
ARROWHEAD aRIGHTWARDS WHITE ARROW WITHIN TRIANGLE ARROWHEAD aDOWNWARDS WHITE ARROW WITHIN TRIANGLE
ARROWHEAD aLEFTWARDS ARROW WITH NOTCHED TAIL aUPWARDS ARROW WITH NOTCHED TAIL aRIGHTWARDS ARROW
WITH NOTCHED TAIL aDOWNWARDS ARROW WITH NOTCHED TAIL aHEAVY ARROW SHAFT WIDTH ONE eTWO THIRDS eONE
HALF fTHIRD aLEFTWARDS BOTTOM-SHADED WHITE ARROW aRIGHTWARDS BOTTOM SHADED WHITE ARROW aLEFTWARDS
TOP SHADED WHITE ARROW aRIGHTWARDS TOP SHADED WHITE ARROW aLEFTWARDS LEFT-SHADED WHITE ARROW
aRIGHTWARDS RIGHT-SHADED WHITE ARROW aLEFTWARDS RIGHT-SHADED WHITE ARROW aRIGHTWARDS LEFT-SHADED
WHITE ARROW aLEFTWARDS BACK-TILTED SHADOWED WHITE ARROW aRIGHTWARDS BACK-TILTED SHADOWED WHITE
ARROW aLEFTWARDS FRONT-TILTED SHADOWED WHITE ARROW aRIGHTWARDS FRONT-TILTED SHADOWED WHITE ARROW
aWHITE ARROW SHAFT WIDTH ONE eTWO THIRDS @1F8B0 ARROW POINTING UPWARDS THEN NORTH WEST cRIGHTWARDS
THEN CURVING SOUTH WEST @1F900 CIRCLED CROSS FORMEE WITH FOUR DOTS eTWO DOTS cFORMEE aLEFT HALF
CIRCLE WITH FOUR DOTS eTHREE DOTS eTWO DOTS eDOT cCIRCLE aDOWNWARD FACING HOOK cNOTCHED HOOK cHOOK
WITH DOT cNOTCHED HOOK WITH DOT aPINCHED FINGERS aWHITE HEART aBROWN HEART aPINCHING HAND
aZIPPER-MOUTH FACE aMONEY-MOUTH FACE aFACE WITH THERMOMETER aNERD FACE aTHINKING FACE aFACE WITH
HEAD-BANDAGE aROBOT FACE aHUGGING FACE aSIGN OF THE HORNS aCALL ME HAND aRAISED BACK OF HAND
aLEFT-FACING FIST aRIGHT-FACING FIST aHANDSHAKE aHAND WITH INDEX AND MIDDLE FINGERS CROSSED aI LOVE
YOU HAND SIGN aFACE WITH COWBOY HAT aCLOWN FACE aNAUSEATED FACE aROLLING ON THE FLOOR LAUGHING
aDROOLING FACE aLYING FACE aFACE PALM aSNEEZING FACE aFACE WITH ONE EYEBROW RAISED aGRINNING FACE
WITH STAR EYES dONE LARGE AND ONE SMALL EYE aFACE WITH FINGER COVERING CLOSED LIPS aSERIOUS FACE
WITH SYMBOLS COVERING MOUTH aSMILING FACE WITH SMILING EYES AND HAND COVERING MOUTH aFACE WITH OPEN
MOUTH VOMITING aSHOCKED FACE WITH EXPLODING HEAD aPREGNANT WOMAN aBREAST-FEEDING aPALMS UP TOGETHER
aSELFIE aPRINCE aMAN IN TUXEDO aMOTHER CHRISTMAS aSHRUG aPERSON DOING CARTWHEEL aJUGGLING aFENCER
aMODERN PENTATHLON aWRESTLERS aWATER POLO aHANDBALL aDIVING MASK aWILTED FLOWER aDRUM WITH
DRUMSTICKS aCLINKING GLASSES aTUMBLER GLASS aSPOON aGOAL NET aRIFLE aFIRST PLACE MEDAL aSECOND
PLACE MEDAL aTHIRD PLACE MEDAL aBOXING GLOVE aMARTIAL ARTS UNIFORM aCURLING STONE aLACROSSE STICK
AND BALL aSOFTBALL aFLYING DISC aCROISSANT aAVOCADO aCUCUMBER aBACON aPOTATO aCARROT aBAGUETTE
BREAD aGREEN SALAD aSHALLOW PAN OF FOOD aSTUFFED FLATBREAD aEGG aGLASS OF MILK aPEANUTS aKIWIFRUIT
aPANCAKES aDUMPLING aFORTUNE COOKIE aTAKEOUT BOX aCHOPSTICKS aBOWL WITH SPOON aCUP WITH STRAW
aCOCONUT aBROCCOLI aPIE aPRETZEL aCUT OF MEAT aSANDWICH aCANNED FOOD aLEAFY GREEN aMANGO aMOON CAKE
aBAGEL aSMILING FACE WITH SMILING EYES AND THREE HEARTS aYAWNING FACE aSMILING FACE WITH TEAR aFACE
WITH PARTY HORN AND PARTY HAT cUNEVEN EYES AND WAVY MOUTH aOVERHEATED FACE aFREEZING FACE aNINJA
aDISGUISED FACE aFACE HOLDING BACK TEARS bWITH PLEADING EYES aSARI aLAB COAT aGOGGLES aHIKING BOOT
aFLAT SHOE aCRAB aLION FACE aSCORPION aTURKEY aUNICORN FACE aEAGLE aDUCK aBAT aSHARK aOWL aFOX FACE
aBUTTERFLY aDEER aGORILLA aLIZARD aRHINOCEROS aSHRIMP aSQUID aGIRAFFE FACE aZEBRA FACE aHEDGEHOG
aSAUROPOD aT-REX aCRICKET aKANGAROO aLLAMA aPEACOCK aHIPPOPOTAMUS aPARROT aRACCOON aLOBSTER
aMOSQUITO aMICROBE aBADGER aSWAN aMAMMOTH aDODO aSLOTH aOTTER aORANGUTAN aSKUNK aFLAMINGO aOYSTER
aBEAVER aBISON aSEAL aGUIDE DOG aPROBING CANE aEMOJI COMPONENT RED HAIR cCURLY HAIR cBALD cWHITE
HAIR aBONE aLEG aFOOT aTOOTH aSUPERHERO aSUPERVILLAIN aSAFETY VEST aEAR WITH HEARING AID aMOTORIZED
WHEELCHAIR aMANUAL WHEELCHAIR aMECHANICAL ARM bLEG aCHEESE WEDGE aCUPCAKE aSALT SHAKER aBEVERAGE
BOX aGARLIC aONION aFALAFEL aWAFFLE aBUTTER aMATE DRINK aICE CUBE aBUBBLE TEA aTROLL aSTANDING
PERSON aKNEELING PERSON aDEAF PERSON aFACE WITH MONOCLE aADULT aCHILD aOLDER ADULT aBEARDED PERSON
aPERSON WITH HEADSCARF bIN STEAMY ROOM bCLIMBING bIN LOTUS POSITION aMAGE aFAIRY aVAMPIRE
aMERPERSON aELF aGENIE aZOMBIE aBRAIN aORANGE HEART aBILLED CAP aSCARF aGLOVES aCOAT aSOCKS aRED
GIFT ENVELOPE aFIRECRACKER aJIGSAW PUZZLE PIECE aTEST TUBE aPETRI DISH aDNA DOUBLE HELIX aCOMPASS
aABACUS aFIRE EXTINGUISHER aTOOLBOX aBRICK aMAGNET aLUGGAGE aLOTION BOTTLE aSPOOL OF THREAD aBALL
OF YARN aSAFETY PIN aTEDDY BEAR aBROOM aBASKET aROLL OF PAPER aBAR OF SOAP aSPONGE aRECEIPT aNAZAR
AMULET aNEUTRAL CHESS KING cQUEEN cROOK cBISHOP cKNIGHT cPAWN aWHITE CHESS KNIGHT ROTATED
FORTY-FIVE DEGREES aBLACK CHESS KNIGHT ROTATED FORTY-FIVE DEGREES aNEUTRAL CHESS KNIGHT ROTATED
FORTY-FIVE DEGREES aWHITE CHESS KING ROTATED NINETY DEGREES cQUEEN ROTATED NINETY DEGREES cROOK
ROTATED NINETY DEGREES cBISHOP ROTATED NINETY DEGREES cKNIGHT ROTATED NINETY DEGREES cPAWN ROTATED
NINETY DEGREES aBLACK CHESS KING ROTATED NINETY DEGREES cQUEEN ROTATED NINETY DEGREES cROOK ROTATED
NINETY DEGREES cBISHOP ROTATED NINETY DEGREES cKNIGHT ROTATED NINETY DEGREES cPAWN ROTATED NINETY
DEGREES aNEUTRAL CHESS KING ROTATED NINETY DEGREES cQUEEN ROTATED NINETY DEGREES cROOK ROTATED
NINETY DEGREES cBISHOP ROTATED NINETY DEGREES cKNIGHT ROTATED NINETY DEGREES cPAWN ROTATED NINETY
DEGREES aWHITE CHESS KNIGHT ROTATED ONE HUNDRED THIRTY-FIVE DEGREES aBLACK CHESS KNIGHT ROTATED ONE
HUNDRED THIRTY-FIVE DEGREES aNEUTRAL CHESS KNIGHT ROTATED ONE HUNDRED THIRTY-FIVE DEGREES aWHITE
CHESS TURNED KING dQUEEN dROOK dBISHOP dKNIGHT dPAWN aBLACK CHESS TURNED KING dQUEEN dROOK dBISHOP
dKNIGHT dPAWN aNEUTRAL CHESS TURNED KING dQUEEN dROOK dBISHOP dKNIGHT dPAWN aWHITE CHESS KNIGHT
ROTATED TWO HUNDRED TWENTY-FIVE DEGREES aBLACK CHESS KNIGHT ROTATED TWO HUNDRED TWENTY-FIVE DEGREES
aNEUTRAL CHESS KNIGHT ROTATED TWO HUNDRED TWENTY-FIVE DEGREES aWHITE CHESS KING ROTATED TWO HUNDRED
SEVENTY DEGREES cQUEEN ROTATED TWO HUNDRED SEVENTY DEGREES cROOK ROTATED TWO HUNDRED SEVENTY
DEGREES cBISHOP ROTATED TWO HUNDRED SEVENTY DEGREES cKNIGHT ROTATED TWO HUNDRED SEVENTY DEGREES
cPAWN ROTATED TWO HUNDRED SEVENTY DEGREES aBLACK CHESS KING ROTATED TWO HUNDRED SEVENTY DEGREES
cQUEEN ROTATED TWO HUNDRED SEVENTY DEGREES cROOK ROTATED TWO HUNDRED SEVENTY DEGREES cBISHOP
ROTATED TWO HUNDRED SEVENTY DEGREES cKNIGHT ROTATED TWO HUNDRED SEVENTY DEGREES cPAWN ROTATED TWO
HUNDRED SEVENTY DEGREES aNEUTRAL CHESS KING ROTATED TWO HUNDRED SEVENTY DEGREES cQUEEN ROTATED TWO
HUNDRED SEVENTY DEGREES cROOK ROTATED TWO HUNDRED SEVENTY DEGREES cBISHOP ROTATED TWO HUNDRED
SEVENTY DEGREES cKNIGHT ROTATED TWO HUNDRED SEVENTY DEGREES cPAWN ROTATED TWO HUNDRED SEVENTY
DEGREES aWHITE CHESS KNIGHT ROTATED THREE HUNDRED FIFTEEN DEGREES aBLACK CHESS KNIGHT ROTATED THREE
HUNDRED FIFTEEN DEGREES aNEUTRAL CHESS KNIGHT ROTATED THREE HUNDRED FIFTEEN DEGREES aWHITE CHESS
EQUIHOPPER aBLACK CHESS EQUIHOPPER aNEUTRAL CHESS EQUIHOPPER aWHITE CHESS EQUIHOPPER ROTATED NINETY
DEGREES aBLACK CHESS EQUIHOPPER ROTATED NINETY DEGREES aNEUTRAL CHESS EQUIHOPPER ROTATED NINETY
DEGREES aWHITE CHESS KNIGHT-QUEEN cKNIGHT-ROOK cKNIGHT-BISHOP aBLACK CHESS KNIGHT-QUEEN
cKNIGHT-ROOK cKNIGHT-BISHOP @1FA60 XIANGQI RED GENERAL cMANDARIN cELEPHANT cHORSE cCHARIOT cCANNON
cSOLDIER bBLACK GENERAL cMANDARIN cELEPHANT cHORSE cCHARIOT cCANNON cSOLDIER @1FA70 BALLET SHOES
aONE-PIECE SWIMSUIT aBRIEFS aSHORTS aTHONG SANDAL @1FA78 DROP OF BLOOD aADHESIVE BANDAGE
aSTETHOSCOPE aX-RAY aCRUTCH @1FA80 YO-YO aKITE aPARACHUTE aBOOMERANG aMAGIC WAND aPINATA aNESTING
DOLLS @1FA90 RINGED PLANET aCHAIR aRAZOR aAXE aDIYA LAMP aBANJO aMILITARY HELMET aACCORDION aLONG
DRUM aCOIN aCARPENTRY SAW aSCREWDRIVER aLADDER aHOOK aMIRROR aWINDOW aPLUNGER aSEWING NEEDLE aKNOT
aBUCKET aMOUSE TRAP aTOOTHBRUSH aHEADSTONE aPLACARD aROCK aMIRROR BALL aIDENTIFICATION CARD aLOW
BATTERY aHAMSA @1FAB0 FLY aWORM aBEETLE aCOCKROACH aPOTTED PLANT aWOOD aFEATHER aLOTUS aCORAL
aEMPTY NEST aNEST WITH EGGS @1FAC0 ANATOMICAL HEART aLUNGS aPEOPLE HUGGING aPREGNANT MAN bPERSON
aPERSON WITH CROWN @1FAD0 BLUEBERRIES aBELL PEPPER aOLIVE aFLATBREAD aTAMALE aFONDUE aTEAPOT
aPOURING LIQUID aBEANS aJAR @1FAE0 MELTING FACE aSALUTING FACE aFACE WITH OPEN EYES AND HAND OVER
MOUTH cPEEKING EYE cDIAGONAL MOUTH aDOTTED LINE FACE aBITING LIP aBUBBLES @1FAF0 HAND WITH INDEX
FINGER AND THUMB CROSSED aRIGHTWARDS HAND aLEFTWARDS HAND aPALM DOWN HAND bUP HAND aINDEX POINTING
AT THE VIEWER aHEART HANDS @1FB00 BLOCK SEXTANT-1 bSEXTANT-2 bSEXTANT-12 bSEXTANT-3 bSEXTANT-13
bSEXTANT-23 bSEXTANT-123 bSEXTANT-4 bSEXTANT-14 bSEXTANT-24 bSEXTANT-124 bSEXTANT-34 bSEXTANT-134
bSEXTANT-234 bSEXTANT-1234 bSEXTANT-5 bSEXTANT-15 bSEXTANT-25 bSEXTANT-125 bSEXTANT-35 bSEXTANT-235
bSEXTANT-1235 bSEXTANT-45 bSEXTANT-145 bSEXTANT-245 bSEXTANT-1245 bSEXTANT-345 bSEXTANT-1345
bSEXTANT-2345 bSEXTANT-12345 bSEXTANT-6 bSEXTANT-16 bSEXTANT-26 bSEXTANT-126 bSEXTANT-36
bSEXTANT-136 bSEXTANT-236 bSEXTANT-1236 bSEXTANT-46 bSEXTANT-146 bSEXTANT-1246 bSEXTANT-346
bSEXTANT-1346 bSEXTANT-2346 bSEXTANT-12346 bSEXTANT-56 bSEXTANT-156 bSEXTANT-256 bSEXTANT-1256
bSEXTANT-356 bSEXTANT-1356 bSEXTANT-2356 bSEXTANT-12356 bSEXTANT-456 bSEXTANT-1456 bSEXTANT-2456
bSEXTANT-12456 bSEXTANT-3456 bSEXTANT-13456 bSEXTANT-23456 aLOWER LEFT BLOCK DIAGONAL LOWER MIDDLE
LEFT TO LOWER CENTRE jRIGHT eUPPER MIDDLE LEFT TO LOWER CENTRE jRIGHT fLEFT TO LOWER CENTRE bRIGHT
BLOCK DIAGONAL UPPER MIDDLE LEFT TO UPPER CENTRE jRIGHT eLOWER MIDDLE LEFT TO UPPER CENTRE jRIGHT
fLEFT TO UPPER CENTRE fMIDDLE LEFT TO UPPER MIDDLE RIGHT fCENTRE TO LOWER MIDDLE RIGHT fLEFT TO
LOWER MIDDLE RIGHT fCENTRE TO UPPER MIDDLE RIGHT fLEFT TO UPPER MIDDLE RIGHT fCENTRE TO UPPER RIGHT
bLEFT BLOCK DIAGONAL UPPER CENTRE TO UPPER MIDDLE RIGHT fLEFT TO UPPER MIDDLE RIGHT fCENTRE TO
LOWER MIDDLE RIGHT fLEFT TO LOWER MIDDLE RIGHT fCENTRE TO LOWER RIGHT fMIDDLE LEFT TO LOWER MIDDLE
RIGHT aUPPER RIGHT BLOCK DIAGONAL LOWER MIDDLE LEFT TO LOWER CENTRE jRIGHT eUPPER MIDDLE LEFT TO
LOWER CENTRE jRIGHT fLEFT TO LOWER CENTRE bLEFT BLOCK DIAGONAL UPPER MIDDLE LEFT TO UPPER CENTRE
jRIGHT eLOWER MIDDLE LEFT TO UPPER CENTRE jRIGHT fLEFT TO UPPER CENTRE fMIDDLE LEFT TO UPPER MIDDLE
RIGHT fCENTRE TO LOWER MIDDLE RIGHT fLEFT TO LOWER MIDDLE RIGHT fCENTRE TO UPPER MIDDLE RIGHT fLEFT
TO UPPER MIDDLE RIGHT fCENTRE TO UPPER RIGHT bRIGHT BLOCK DIAGONAL UPPER CENTRE TO UPPER MIDDLE
RIGHT fLEFT TO UPPER MIDDLE RIGHT fCENTRE TO LOWER MIDDLE RIGHT fLEFT TO LOWER MIDDLE RIGHT fCENTRE
TO LOWER RIGHT fMIDDLE LEFT TO LOWER MIDDLE RIGHT bAND RIGHT AND LOWER TRIANGULAR THREE QUARTERS
BLOCK aLEFT AND LOWER AND RIGHT TRIANGULAR THREE QUARTERS BLOCK aUPPER AND LEFT AND LOWER
TRIANGULAR THREE QUARTERS BLOCK aLEFT AND UPPER AND RIGHT TRIANGULAR THREE QUARTERS BLOCK
bTRIANGULAR ONE QUARTER BLOCK aUPPER TRIANGULAR ONE QUARTER BLOCK aRIGHT TRIANGULAR ONE QUARTER
BLOCK aLOWER TRIANGULAR ONE QUARTER BLOCK aVERTICAL ONE EIGHTH BLOCK-2 dBLOCK-3 dBLOCK-4 dBLOCK-5
dBLOCK-6 dBLOCK-7 aHORIZONTAL ONE EIGHTH BLOCK-2 dBLOCK-3 dBLOCK-4 dBLOCK-5 dBLOCK-6 dBLOCK-7 aLEFT
AND LOWER ONE EIGHTH BLOCK cUPPER ONE EIGHTH BLOCK aRIGHT AND UPPER ONE EIGHTH BLOCK cLOWER ONE
EIGHTH BLOCK aUPPER AND LOWER ONE EIGHTH BLOCK aHORIZONTAL ONE EIGHTH BLOCK-1358 aUPPER ONE QUARTER
BLOCK bTHREE EIGHTHS BLOCK bFIVE EIGHTHS BLOCK bTHREE QUARTERS BLOCK bSEVEN EIGHTHS BLOCK aRIGHT
ONE QUARTER BLOCK bTHREE EIGHTHS BLOCK bFIVE EIGHTHS BLOCK bTHREE QUARTERS BLOCK bSEVEN EIGHTHS
BLOCK aLEFT HALF MEDIUM SHADE aRIGHT HALF MEDIUM SHADE aUPPER HALF MEDIUM SHADE aLOWER HALF MEDIUM
SHADE aINVERSE MEDIUM SHADE aUPPER HALF BLOCK AND LOWER HALF INVERSE MEDIUM SHADE cINVERSE MEDIUM
SHADE AND LOWER HALF BLOCK @1FB94 LEFT HALF INVERSE MEDIUM SHADE AND RIGHT HALF BLOCK aCHECKER
BOARD FILL aINVERSE CHECKER BOARD FILL aHEAVY HORIZONTAL FILL aUPPER LEFT TO LOWER RIGHT FILL
bRIGHT TO LOWER LEFT FILL bAND LOWER TRIANGULAR HALF BLOCK aLEFT AND RIGHT TRIANGULAR HALF BLOCK
aUPPER LEFT TRIANGULAR MEDIUM SHADE bRIGHT TRIANGULAR MEDIUM SHADE aLOWER RIGHT TRIANGULAR MEDIUM
SHADE bLEFT TRIANGULAR MEDIUM SHADE aBOX DRAWINGS LIGHT DIAGONAL UPPER CENTRE TO MIDDLE LEFT iRIGHT
eMIDDLE LEFT TO LOWER CENTRE fRIGHT TO LOWER CENTRE eUPPER CENTRE TO MIDDLE LEFT TO LOWER CENTRE
iRIGHT TO LOWER CENTRE eMIDDLE LEFT TO LOWER CENTRE TO MIDDLE RIGHT hUPPER CENTRE TO MIDDLE RIGHT
eUPPER CENTRE TO MIDDLE LEFT AND MIDDLE RIGHT TO LOWER CENTRE iRIGHT AND MIDDLE LEFT TO LOWER
CENTRE jTO LOWER CENTRE TO MIDDLE LEFT iLEFT TO LOWER CENTRE TO MIDDLE RIGHT eMIDDLE LEFT TO UPPER
CENTRE TO MIDDLE RIGHT TO LOWER CENTRE fRIGHT TO UPPER CENTRE TO MIDDLE LEFT TO LOWER CENTRE
eDIAMOND dHORIZONTAL WITH VERTICAL STROKE aARROWHEAD-SHAPED POINTER aINVERSE CHECK MARK aLEFT HALF
RUNNING MAN aRIGHT HALF RUNNING MAN aINVERSE DOWNWARDS ARROW WITH TIP LEFTWARDS aLEFTWARDS ARROW
AND UPPER AND LOWER ONE EIGHTH BLOCK aRIGHTWARDS ARROW AND UPPER AND LOWER ONE EIGHTH BLOCK
aDOWNWARDS ARROW AND RIGHT ONE EIGHTH BLOCK aUPWARDS ARROW AND RIGHT ONE EIGHTH BLOCK aLEFT HALF
FOLDER aRIGHT HALF FOLDER aVOIDED GREEK CROSS aRIGHT OPEN SQUARED DOT aNEGATIVE DIAGONAL CROSS
cMIDDLE RIGHT TO LOWER CENTRE cDIAMOND aWHITE HEAVY SALTIRE WITH ROUNDED CORNERS aLEFT THIRD WHITE
RIGHT POINTING INDEX aMIDDLE THIRD WHITE RIGHT POINTING INDEX aRIGHT THIRD WHITE RIGHT POINTING
INDEX aNEGATIVE SQUARED QUESTION MARK aSTICK FIGURE cWITH ARMS RAISED cLEANING LEFT dRIGHT cWITH
DRESS aWHITE UP-POINTING CHEVRON @1FBF0 SEGMENTED DIGIT ZERO cONE cTWO cTHREE cFOUR cFIVE cSIX
cSEVEN cEIGHT cNINE @E0001 LANGUAGE TAG @E0020 TAG SPACE bEXCLAMATION MARK bQUOTATION MARK bNUMBER
SIGN bDOLLAR SIGN bPERCENT SIGN bAMPERSAND bAPOSTROPHE bLEFT PARENTHESIS bRIGHT PARENTHESIS
bASTERISK bPLUS SIGN bCOMMA bHYPHEN-MINUS bFULL STOP bSOLIDUS bDIGIT ZERO cONE cTWO cTHREE cFOUR
cFIVE cSIX cSEVEN cEIGHT cNINE bCOLON bSEMICOLON bLESS-THAN SIGN bEQUALS SIGN bGREATER-THAN SIGN
bQUESTION MARK bCOMMERCIAL AT bLATIN CAPITAL LETTER A eB eC eD eE eF eG eH eI eJ eK eL eM eN eO eP
eQ eR eS eT eU eV eW eX eY eZ bLEFT SQUARE BRACKET bREVERSE SOLIDUS bRIGHT SQUARE BRACKET
bCIRCUMFLEX ACCENT bLOW LINE bGRAVE ACCENT bLATIN SMALL LETTER A eB eC eD eE eF eG eH eI eJ eK eL
eM eN eO eP eQ eR eS eT eU eV eW eX eY eZ bLEFT CURLY BRACKET bVERTICAL LINE bRIGHT CURLY BRACKET
bTILDE aCANCEL TAG @E0100 VARIATION SELECTOR-17 bSELECTOR-18 bSELECTOR-19 bSELECTOR-20 bSELECTOR-21
bSELECTOR-22 bSELECTOR-23 bSELECTOR-24 bSELECTOR-25 bSELECTOR-26 bSELECTOR-27 bSELECTOR-28
bSELECTOR-29 bSELECTOR-30 bSELECTOR-31 bSELECTOR-32 bSELECTOR-33 bSELECTOR-34 bSELECTOR-35
bSELECTOR-36 bSELECTOR-37 bSELECTOR-38 bSELECTOR-39 bSELECTOR-40 bSELECTOR-41 bSELECTOR-42
bSELECTOR-43 bSELECTOR-44 bSELECTOR-45 bSELECTOR-46 bSELECTOR-47 bSELECTOR-48 bSELECTOR-49
bSELECTOR-50 bSELECTOR-51 bSELECTOR-52 bSELECTOR-53 bSELECTOR-54 bSELECTOR-55 bSELECTOR-56
bSELECTOR-57 bSELECTOR-58 bSELECTOR-59 bSELECTOR-60 bSELECTOR-61 bSELECTOR-62 bSELECTOR-63
bSELECTOR-64 bSELECTOR-65 bSELECTOR-66 bSELECTOR-67 bSELECTOR-68 bSELECTOR-69 bSELECTOR-70
bSELECTOR-71 bSELECTOR-72 bSELECTOR-73 bSELECTOR-74 bSELECTOR-75 bSELECTOR-76 bSELECTOR-77
bSELECTOR-78 bSELECTOR-79 bSELECTOR-80 bSELECTOR-81 bSELECTOR-82 bSELECTOR-83 bSELECTOR-84
bSELECTOR-85 bSELECTOR-86 bSELECTOR-87 bSELECTOR-88 bSELECTOR-89 bSELECTOR-90 bSELECTOR-91
bSELECTOR-92 bSELECTOR-93 bSELECTOR-94 bSELECTOR-95 bSELECTOR-96 bSELECTOR-97 bSELECTOR-98
bSELECTOR-99 bSELECTOR-100 bSELECTOR-101 bSELECTOR-102 bSELECTOR-103 bSELECTOR-104 bSELECTOR-105
bSELECTOR-106 bSELECTOR-107 bSELECTOR-108 bSELECTOR-109 bSELECTOR-110 bSELECTOR-111 bSELECTOR-112
bSELECTOR-113 bSELECTOR-114 bSELECTOR-115 bSELECTOR-116 bSELECTOR-117 bSELECTOR-118 bSELECTOR-119
bSELECTOR-120 bSELECTOR-121 bSELECTOR-122 bSELECTOR-123 bSELECTOR-124 bSELECTOR-125 bSELECTOR-126
bSELECTOR-127 bSELECTOR-128 bSELECTOR-129 bSELECTOR-130 bSELECTOR-131 bSELECTOR-132 bSELECTOR-133
bSELECTOR-134 bSELECTOR-135 bSELECTOR-136 bSELECTOR-137 bSELECTOR-138 bSELECTOR-139 bSELECTOR-140
bSELECTOR-141 bSELECTOR-142 bSELECTOR-143 bSELECTOR-144 bSELECTOR-145 bSELECTOR-146 bSELECTOR-147
bSELECTOR-148 bSELECTOR-149 bSELECTOR-150 bSELECTOR-151 bSELECTOR-152 bSELECTOR-153 bSELECTOR-154
bSELECTOR-155 bSELECTOR-156 bSELECTOR-157 bSELECTOR-158 bSELECTOR-159 bSELECTOR-160 bSELECTOR-161
bSELECTOR-162 bSELECTOR-163 bSELECTOR-164 bSELECTOR-165 bSELECTOR-166 bSELECTOR-167 bSELECTOR-168
bSELECTOR-169 bSELECTOR-170 bSELECTOR-171 bSELECTOR-172 bSELECTOR-173 bSELECTOR-174 bSELECTOR-175
bSELECTOR-176 bSELECTOR-177 bSELECTOR-178 bSELECTOR-179 bSELECTOR-180 bSELECTOR-181 bSELECTOR-182
bSELECTOR-183 bSELECTOR-184 bSELECTOR-185 bSELECTOR-186 bSELECTOR-187 bSELECTOR-188 bSELECTOR-189
bSELECTOR-190 bSELECTOR-191 bSELECTOR-192 bSELECTOR-193 bSELECTOR-194 bSELECTOR-195 bSELECTOR-196
bSELECTOR-197 bSELECTOR-198 bSELECTOR-199 bSELECTOR-200 bSELECTOR-201 bSELECTOR-202 bSELECTOR-203
bSELECTOR-204 bSELECTOR-205 bSELECTOR-206 bSELECTOR-207 bSELECTOR-208 bSELECTOR-209 bSELECTOR-210
bSELECTOR-211 bSELECTOR-212 bSELECTOR-213 bSELECTOR-214 bSELECTOR-215 bSELECTOR-216 bSELECTOR-217
bSELECTOR-218 bSELECTOR-219 bSELECTOR-220 bSELECTOR-221 bSELECTOR-222 bSELECTOR-223 bSELECTOR-224
bSELECTOR-225 bSELECTOR-226 bSELECTOR-227 bSELECTOR-228 bSELECTOR-229 bSELECTOR-230 bSELECTOR-231
bSELECTOR-232 bSELECTOR-233 bSELECTOR-234 bSELECTOR-235 bSELECTOR-236 bSELECTOR-237 bSELECTOR-238
bSELECTOR-239 bSELECTOR-240 bSELECTOR-241 bSELECTOR-242 bSELECTOR-243 bSELECTOR-244 bSELECTOR-245
bSELECTOR-246 bSELECTOR-247 bSELECTOR-248 bSELECTOR-249 bSELECTOR-250 bSELECTOR-251 bSELECTOR-252
bSELECTOR-253 bSELECTOR-254 bSELECTOR-255 bSELECTOR-256"⟩

end Treebank.Text
