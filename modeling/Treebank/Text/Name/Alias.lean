import Treebank.Text.Name.Table

/-!
# Further names of characters

Control characters have only these names. Of the others, some are abbreviated and some have a name
that mends a mistaken one.
-/

namespace Treebank.Text

/-- Further names, several of them for some characters. -/
def aliases : NameTable := ⟨
"@0 NULL @0 NUL aSTART OF HEADING @1 SOH aSTART OF TEXT @2 STX aEND OF TEXT @3 ETX aEND OF
TRANSMISSION @4 EOT aENQUIRY @5 ENQ aACKNOWLEDGE @6 ACK aALERT @7 BEL aBACKSPACE @8 BS aCHARACTER
TABULATION @9 HORIZONTAL TABULATION @9 HT @9 TAB aLINE FEED @A NEW LINE @A END OF LINE @A LF @A NL
@A EOL aLINE TABULATION @B VERTICAL TABULATION @B VT aFORM FEED @C FF aCARRIAGE RETURN @D CR aSHIFT
OUT @E LOCKING-SHIFT ONE @E SO aSHIFT IN @F LOCKING-SHIFT ZERO @F SI aDATA LINK ESCAPE @10 DLE
aDEVICE CONTROL ONE @11 DC1 aDEVICE CONTROL TWO @12 DC2 aDEVICE CONTROL THREE @13 DC3 aDEVICE
CONTROL FOUR @14 DC4 aNEGATIVE ACKNOWLEDGE @15 NAK aSYNCHRONOUS IDLE @16 SYN aEND OF TRANSMISSION
BLOCK @17 ETB aCANCEL @18 CAN aEND OF MEDIUM @19 EOM aSUBSTITUTE @1A SUB aESCAPE @1B ESC
aINFORMATION SEPARATOR FOUR @1C FILE SEPARATOR @1C FS aINFORMATION SEPARATOR THREE @1D GROUP
SEPARATOR @1D GS aINFORMATION SEPARATOR TWO @1E RECORD SEPARATOR @1E RS aINFORMATION SEPARATOR ONE
@1F UNIT SEPARATOR @1F US aSP @7F DELETE @7F DEL aPADDING CHARACTER @80 PAD aHIGH OCTET PRESET @81
HOP aBREAK PERMITTED HERE @82 BPH aNO BREAK HERE @83 NBH aINDEX @84 IND aNEXT LINE @85 NEL aSTART
OF SELECTED AREA @86 SSA aEND OF SELECTED AREA @87 ESA aCHARACTER TABULATION SET @88 HORIZONTAL
TABULATION SET @88 HTS aCHARACTER TABULATION WITH JUSTIFICATION @89 HORIZONTAL TABULATION WITH
JUSTIFICATION @89 HTJ aLINE TABULATION SET @8A VERTICAL TABULATION SET @8A VTS aPARTIAL LINE
FORWARD @8B PARTIAL LINE DOWN @8B PLD aPARTIAL LINE BACKWARD @8C PARTIAL LINE UP @8C PLU aREVERSE
LINE FEED @8D REVERSE INDEX @8D RI aSINGLE SHIFT TWO @8E SINGLE-SHIFT-2 @8E SS2 aSINGLE SHIFT THREE
@8F SINGLE-SHIFT-3 @8F SS3 aDEVICE CONTROL STRING @90 DCS aPRIVATE USE ONE @91 PRIVATE USE-1 @91
PU1 aPRIVATE USE TWO @92 PRIVATE USE-2 @92 PU2 aSET TRANSMIT STATE @93 STS aCANCEL CHARACTER @94
CCH aMESSAGE WAITING @95 MW aSTART OF GUARDED AREA @96 START OF PROTECTED AREA @96 SPA aEND OF
GUARDED AREA @97 END OF PROTECTED AREA @97 EPA aSTART OF STRING @98 SOS aSINGLE GRAPHIC CHARACTER
INTRODUCER @99 SGC aSINGLE CHARACTER INTRODUCER @9A SCI aCONTROL SEQUENCE INTRODUCER @9B CSI
aSTRING TERMINATOR @9C ST aOPERATING SYSTEM COMMAND @9D OSC aPRIVACY MESSAGE @9E PM aAPPLICATION
PROGRAM COMMAND @9F APC aNBSP @AD SHY @1A2 LATIN CAPITAL LETTER GHA bSMALL LETTER GHA @34F CGJ @61C
ALM @709 SYRIAC SUBLINEAR COLON SKEWED LEFT @CDE KANNADA LETTER LLLA @E9D LAO LETTER FO FON @E9F
LAO LETTER FO FAY @EA3 LAO LETTER RO @EA5 LAO LETTER LO @FD0 TIBETAN MARK BKA- SHOG GI MGO RGYAN
@11EC HANGUL JONGSEONG YESIEUNG-KIYEOK cYESIEUNG-SSANGKIYEOK cSSANGYESIEUNG cYESIEUNG-KHIEUKH @180B
FVS1 aFVS2 aFVS3 aMVS aFVS4 @200B ZWSP aZWNJ aZWJ aLRM aRLM @202A LRE aRLE aPDF aLRO aRLO aNNBSP
@205F MMSP aWJ @2066 LRI aRLI aFSI aPDI @2118 WEIERSTRASS ELLIPTIC FUNCTION @2448 MICR ON US SYMBOL
bDASH SYMBOL @2B7A LEFTWARDS TRIANGLE-HEADED ARROW WITH DOUBLE VERTICAL STROKE @2B7C RIGHTWARDS
TRIANGLE-HEADED ARROW WITH DOUBLE VERTICAL STROKE @A015 YI SYLLABLE ITERATION MARK @AA6E MYANMAR
LETTER KHAMTI LLA @FE00 VS1 aVS2 aVS3 aVS4 aVS5 aVS6 aVS7 aVS8 aVS9 aVS10 aVS11 aVS12 aVS13 aVS14
aVS15 aVS16 @FE18 PRESENTATION FORM FOR VERTICAL RIGHT WHITE LENTICULAR BRACKET @FEFF BYTE ORDER
MARK @FEFF BOM @FEFF ZWNBSP @122D4 CUNEIFORM SIGN NU11 TENU dOVER NU11 BUR OVER BUR @16E56
MEDEFAIDRIN CAPITAL LETTER H dNG @16E76 MEDEFAIDRIN SMALL LETTER H dNG @1B001 HENTAIGANA LETTER E-1
@1D0C5 BYZANTINE MUSICAL SYMBOL FTHORA SKLIRON CHROMA VASIS @E0100 VS17 aVS18 aVS19 aVS20 aVS21
aVS22 aVS23 aVS24 aVS25 aVS26 aVS27 aVS28 aVS29 aVS30 aVS31 aVS32 aVS33 aVS34 aVS35 aVS36 aVS37
aVS38 aVS39 aVS40 aVS41 aVS42 aVS43 aVS44 aVS45 aVS46 aVS47 aVS48 aVS49 aVS50 aVS51 aVS52 aVS53
aVS54 aVS55 aVS56 aVS57 aVS58 aVS59 aVS60 aVS61 aVS62 aVS63 aVS64 aVS65 aVS66 aVS67 aVS68 aVS69
aVS70 aVS71 aVS72 aVS73 aVS74 aVS75 aVS76 aVS77 aVS78 aVS79 aVS80 aVS81 aVS82 aVS83 aVS84 aVS85
aVS86 aVS87 aVS88 aVS89 aVS90 aVS91 aVS92 aVS93 aVS94 aVS95 aVS96 aVS97 aVS98 aVS99 aVS100 aVS101
aVS102 aVS103 aVS104 aVS105 aVS106 aVS107 aVS108 aVS109 aVS110 aVS111 aVS112 aVS113 aVS114 aVS115
aVS116 aVS117 aVS118 aVS119 aVS120 aVS121 aVS122 aVS123 aVS124 aVS125 aVS126 aVS127 aVS128 aVS129
aVS130 aVS131 aVS132 aVS133 aVS134 aVS135 aVS136 aVS137 aVS138 aVS139 aVS140 aVS141 aVS142 aVS143
aVS144 aVS145 aVS146 aVS147 aVS148 aVS149 aVS150 aVS151 aVS152 aVS153 aVS154 aVS155 aVS156 aVS157
aVS158 aVS159 aVS160 aVS161 aVS162 aVS163 aVS164 aVS165 aVS166 aVS167 aVS168 aVS169 aVS170 aVS171
aVS172 aVS173 aVS174 aVS175 aVS176 aVS177 aVS178 aVS179 aVS180 aVS181 aVS182 aVS183 aVS184 aVS185
aVS186 aVS187 aVS188 aVS189 aVS190 aVS191 aVS192 aVS193 aVS194 aVS195 aVS196 aVS197 aVS198 aVS199
aVS200 aVS201 aVS202 aVS203 aVS204 aVS205 aVS206 aVS207 aVS208 aVS209 aVS210 aVS211 aVS212 aVS213
aVS214 aVS215 aVS216 aVS217 aVS218 aVS219 aVS220 aVS221 aVS222 aVS223 aVS224 aVS225 aVS226 aVS227
aVS228 aVS229 aVS230 aVS231 aVS232 aVS233 aVS234 aVS235 aVS236 aVS237 aVS238 aVS239 aVS240 aVS241
aVS242 aVS243 aVS244 aVS245 aVS246 aVS247 aVS248 aVS249 aVS250 aVS251 aVS252 aVS253 aVS254 aVS255
aVS256"⟩

end Treebank.Text
