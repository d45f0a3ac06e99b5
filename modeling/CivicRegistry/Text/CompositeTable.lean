import CivicRegistry.Text.Ranges

/-!
# Table of composite characters

A composite character is one that means the same as two others in a row, and
that stands for them in composed texts.  The composites of Korean letters are
not in the table, because they follow a rule.
-/

namespace CivicRegistry.Text

/-- A character and the two in a row that it means. -/
structure Composite where
  first : Nat
  second : Nat
  whole : Nat

/-- A composite as it is written: the two code points, and behind an equals sign
the one for both. -/
def readComposite? (word : List Char) : Option Composite :=
  match word.splitOn '=' with
  | [parts, whole] =>
    match parts.splitOn '+' with
    | [first, second] =>
      some ⟨codePoint first, codePoint second, codePoint whole⟩
    | _ => none
  | _ => none

/-- The composites as they are written. -/
def compositeTable : String :=
  "0041+0300=00C0 0041+0301=00C1 0041+0302=00C2 0041+0303=00C3 0041+0308=00C4
   0041+030A=00C5 0043+0327=00C7 0045+0300=00C8 0045+0301=00C9 0045+0302=00CA
   0045+0308=00CB 0049+0300=00CC 0049+0301=00CD 0049+0302=00CE 0049+0308=00CF
   004E+0303=00D1 004F+0300=00D2 004F+0301=00D3 004F+0302=00D4 004F+0303=00D5
   004F+0308=00D6 0055+0300=00D9 0055+0301=00DA 0055+0302=00DB 0055+0308=00DC
   0059+0301=00DD 0061+0300=00E0 0061+0301=00E1 0061+0302=00E2 0061+0303=00E3
   0061+0308=00E4 0061+030A=00E5 0063+0327=00E7 0065+0300=00E8 0065+0301=00E9
   0065+0302=00EA 0065+0308=00EB 0069+0300=00EC 0069+0301=00ED 0069+0302=00EE
   0069+0308=00EF 006E+0303=00F1 006F+0300=00F2 006F+0301=00F3 006F+0302=00F4
   006F+0303=00F5 006F+0308=00F6 0075+0300=00F9 0075+0301=00FA 0075+0302=00FB
   0075+0308=00FC 0079+0301=00FD 0079+0308=00FF 0041+0304=0100 0061+0304=0101
   0041+0306=0102 0061+0306=0103 0041+0328=0104 0061+0328=0105 0043+0301=0106
   0063+0301=0107 0043+0302=0108 0063+0302=0109 0043+0307=010A 0063+0307=010B
   0043+030C=010C 0063+030C=010D 0044+030C=010E 0064+030C=010F 0045+0304=0112
   0065+0304=0113 0045+0306=0114 0065+0306=0115 0045+0307=0116 0065+0307=0117
   0045+0328=0118 0065+0328=0119 0045+030C=011A 0065+030C=011B 0047+0302=011C
   0067+0302=011D 0047+0306=011E 0067+0306=011F 0047+0307=0120 0067+0307=0121
   0047+0327=0122 0067+0327=0123 0048+0302=0124 0068+0302=0125 0049+0303=0128
   0069+0303=0129 0049+0304=012A 0069+0304=012B 0049+0306=012C 0069+0306=012D
   0049+0328=012E 0069+0328=012F 0049+0307=0130 004A+0302=0134 006A+0302=0135
   004B+0327=0136 006B+0327=0137 004C+0301=0139 006C+0301=013A 004C+0327=013B
   006C+0327=013C 004C+030C=013D 006C+030C=013E 004E+0301=0143 006E+0301=0144
   004E+0327=0145 006E+0327=0146 004E+030C=0147 006E+030C=0148 004F+0304=014C
   006F+0304=014D 004F+0306=014E 006F+0306=014F 004F+030B=0150 006F+030B=0151
   0052+0301=0154 0072+0301=0155 0052+0327=0156 0072+0327=0157 0052+030C=0158
   0072+030C=0159 0053+0301=015A 0073+0301=015B 0053+0302=015C 0073+0302=015D
   0053+0327=015E 0073+0327=015F 0053+030C=0160 0073+030C=0161 0054+0327=0162
   0074+0327=0163 0054+030C=0164 0074+030C=0165 0055+0303=0168 0075+0303=0169
   0055+0304=016A 0075+0304=016B 0055+0306=016C 0075+0306=016D 0055+030A=016E
   0075+030A=016F 0055+030B=0170 0075+030B=0171 0055+0328=0172 0075+0328=0173
   0057+0302=0174 0077+0302=0175 0059+0302=0176 0079+0302=0177 0059+0308=0178
   005A+0301=0179 007A+0301=017A 005A+0307=017B 007A+0307=017C 005A+030C=017D
   007A+030C=017E 004F+031B=01A0 006F+031B=01A1 0055+031B=01AF 0075+031B=01B0
   0041+030C=01CD 0061+030C=01CE 0049+030C=01CF 0069+030C=01D0 004F+030C=01D1
   006F+030C=01D2 0055+030C=01D3 0075+030C=01D4 00DC+0304=01D5 00FC+0304=01D6
   00DC+0301=01D7 00FC+0301=01D8 00DC+030C=01D9 00FC+030C=01DA 00DC+0300=01DB
   00FC+0300=01DC 00C4+0304=01DE 00E4+0304=01DF 0226+0304=01E0 0227+0304=01E1
   00C6+0304=01E2 00E6+0304=01E3 0047+030C=01E6 0067+030C=01E7 004B+030C=01E8
   006B+030C=01E9 004F+0328=01EA 006F+0328=01EB 01EA+0304=01EC 01EB+0304=01ED
   01B7+030C=01EE 0292+030C=01EF 006A+030C=01F0 0047+0301=01F4 0067+0301=01F5
   004E+0300=01F8 006E+0300=01F9 00C5+0301=01FA 00E5+0301=01FB 00C6+0301=01FC
   00E6+0301=01FD 00D8+0301=01FE 00F8+0301=01FF 0041+030F=0200 0061+030F=0201
   0041+0311=0202 0061+0311=0203 0045+030F=0204 0065+030F=0205 0045+0311=0206
   0065+0311=0207 0049+030F=0208 0069+030F=0209 0049+0311=020A 0069+0311=020B
   004F+030F=020C 006F+030F=020D 004F+0311=020E 006F+0311=020F 0052+030F=0210
   0072+030F=0211 0052+0311=0212 0072+0311=0213 0055+030F=0214 0075+030F=0215
   0055+0311=0216 0075+0311=0217 0053+0326=0218 0073+0326=0219 0054+0326=021A
   0074+0326=021B 0048+030C=021E 0068+030C=021F 0041+0307=0226 0061+0307=0227
   0045+0327=0228 0065+0327=0229 00D6+0304=022A 00F6+0304=022B 00D5+0304=022C
   00F5+0304=022D 004F+0307=022E 006F+0307=022F 022E+0304=0230 022F+0304=0231
   0059+0304=0232 0079+0304=0233 00A8+0301=0385 0391+0301=0386 0395+0301=0388
   0397+0301=0389 0399+0301=038A 039F+0301=038C 03A5+0301=038E 03A9+0301=038F
   03CA+0301=0390 0399+0308=03AA 03A5+0308=03AB 03B1+0301=03AC 03B5+0301=03AD
   03B7+0301=03AE 03B9+0301=03AF 03CB+0301=03B0 03B9+0308=03CA 03C5+0308=03CB
   03BF+0301=03CC 03C5+0301=03CD 03C9+0301=03CE 03D2+0301=03D3 03D2+0308=03D4
   0415+0300=0400 0415+0308=0401 0413+0301=0403 0406+0308=0407 041A+0301=040C
   0418+0300=040D 0423+0306=040E 0418+0306=0419 0438+0306=0439 0435+0300=0450
   0435+0308=0451 0433+0301=0453 0456+0308=0457 043A+0301=045C 0438+0300=045D
   0443+0306=045E 0474+030F=0476 0475+030F=0477 0416+0306=04C1 0436+0306=04C2
   0410+0306=04D0 0430+0306=04D1 0410+0308=04D2 0430+0308=04D3 0415+0306=04D6
   0435+0306=04D7 04D8+0308=04DA 04D9+0308=04DB 0416+0308=04DC 0436+0308=04DD
   0417+0308=04DE 0437+0308=04DF 0418+0304=04E2 0438+0304=04E3 0418+0308=04E4
   0438+0308=04E5 041E+0308=04E6 043E+0308=04E7 04E8+0308=04EA 04E9+0308=04EB
   042D+0308=04EC 044D+0308=04ED 0423+0304=04EE 0443+0304=04EF 0423+0308=04F0
   0443+0308=04F1 0423+030B=04F2 0443+030B=04F3 0427+0308=04F4 0447+0308=04F5
   042B+0308=04F8 044B+0308=04F9 0627+0653=0622 0627+0654=0623 0648+0654=0624
   0627+0655=0625 064A+0654=0626 06D5+0654=06C0 06C1+0654=06C2 06D2+0654=06D3
   0928+093C=0929 0930+093C=0931 0933+093C=0934 09C7+09BE=09CB 09C7+09D7=09CC
   0B47+0B56=0B48 0B47+0B3E=0B4B 0B47+0B57=0B4C 0B92+0BD7=0B94 0BC6+0BBE=0BCA
   0BC7+0BBE=0BCB 0BC6+0BD7=0BCC 0C46+0C56=0C48 0CBF+0CD5=0CC0 0CC6+0CD5=0CC7
   0CC6+0CD6=0CC8 0CC6+0CC2=0CCA 0CCA+0CD5=0CCB 0D46+0D3E=0D4A 0D47+0D3E=0D4B
   0D46+0D57=0D4C 0DD9+0DCA=0DDA 0DD9+0DCF=0DDC 0DDC+0DCA=0DDD 0DD9+0DDF=0DDE
   1025+102E=1026 1B05+1B35=1B06 1B07+1B35=1B08 1B09+1B35=1B0A 1B0B+1B35=1B0C
   1B0D+1B35=1B0E 1B11+1B35=1B12 1B3A+1B35=1B3B 1B3C+1B35=1B3D 1B3E+1B35=1B40
   1B3F+1B35=1B41 1B42+1B35=1B43 0041+0325=1E00 0061+0325=1E01 0042+0307=1E02
   0062+0307=1E03 0042+0323=1E04 0062+0323=1E05 0042+0331=1E06 0062+0331=1E07
   00C7+0301=1E08 00E7+0301=1E09 0044+0307=1E0A 0064+0307=1E0B 0044+0323=1E0C
   0064+0323=1E0D 0044+0331=1E0E 0064+0331=1E0F 0044+0327=1E10 0064+0327=1E11
   0044+032D=1E12 0064+032D=1E13 0112+0300=1E14 0113+0300=1E15 0112+0301=1E16
   0113+0301=1E17 0045+032D=1E18 0065+032D=1E19 0045+0330=1E1A 0065+0330=1E1B
   0228+0306=1E1C 0229+0306=1E1D 0046+0307=1E1E 0066+0307=1E1F 0047+0304=1E20
   0067+0304=1E21 0048+0307=1E22 0068+0307=1E23 0048+0323=1E24 0068+0323=1E25
   0048+0308=1E26 0068+0308=1E27 0048+0327=1E28 0068+0327=1E29 0048+032E=1E2A
   0068+032E=1E2B 0049+0330=1E2C 0069+0330=1E2D 00CF+0301=1E2E 00EF+0301=1E2F
   004B+0301=1E30 006B+0301=1E31 004B+0323=1E32 006B+0323=1E33 004B+0331=1E34
   006B+0331=1E35 004C+0323=1E36 006C+0323=1E37 1E36+0304=1E38 1E37+0304=1E39
   004C+0331=1E3A 006C+0331=1E3B 004C+032D=1E3C 006C+032D=1E3D 004D+0301=1E3E
   006D+0301=1E3F 004D+0307=1E40 006D+0307=1E41 004D+0323=1E42 006D+0323=1E43
   004E+0307=1E44 006E+0307=1E45 004E+0323=1E46 006E+0323=1E47 004E+0331=1E48
   006E+0331=1E49 004E+032D=1E4A 006E+032D=1E4B 00D5+0301=1E4C 00F5+0301=1E4D
   00D5+0308=1E4E 00F5+0308=1E4F 014C+0300=1E50 014D+0300=1E51 014C+0301=1E52
   014D+0301=1E53 0050+0301=1E54 0070+0301=1E55 0050+0307=1E56 0070+0307=1E57
   0052+0307=1E58 0072+0307=1E59 0052+0323=1E5A 0072+0323=1E5B 1E5A+0304=1E5C
   1E5B+0304=1E5D 0052+0331=1E5E 0072+0331=1E5F 0053+0307=1E60 0073+0307=1E61
   0053+0323=1E62 0073+0323=1E63 015A+0307=1E64 015B+0307=1E65 0160+0307=1E66
   0161+0307=1E67 1E62+0307=1E68 1E63+0307=1E69 0054+0307=1E6A 0074+0307=1E6B
   0054+0323=1E6C 0074+0323=1E6D 0054+0331=1E6E 0074+0331=1E6F 0054+032D=1E70
   0074+032D=1E71 0055+0324=1E72 0075+0324=1E73 0055+0330=1E74 0075+0330=1E75
   0055+032D=1E76 0075+032D=1E77 0168+0301=1E78 0169+0301=1E79 016A+0308=1E7A
   016B+0308=1E7B 0056+0303=1E7C 0076+0303=1E7D 0056+0323=1E7E 0076+0323=1E7F
   0057+0300=1E80 0077+0300=1E81 0057+0301=1E82 0077+0301=1E83 0057+0308=1E84
   0077+0308=1E85 0057+0307=1E86 0077+0307=1E87 0057+0323=1E88 0077+0323=1E89
   0058+0307=1E8A 0078+0307=1E8B 0058+0308=1E8C 0078+0308=1E8D 0059+0307=1E8E
   0079+0307=1E8F 005A+0302=1E90 007A+0302=1E91 005A+0323=1E92 007A+0323=1E93
   005A+0331=1E94 007A+0331=1E95 0068+0331=1E96 0074+0308=1E97 0077+030A=1E98
   0079+030A=1E99 017F+0307=1E9B 0041+0323=1EA0 0061+0323=1EA1 0041+0309=1EA2
   0061+0309=1EA3 00C2+0301=1EA4 00E2+0301=1EA5 00C2+0300=1EA6 00E2+0300=1EA7
   00C2+0309=1EA8 00E2+0309=1EA9 00C2+0303=1EAA 00E2+0303=1EAB 1EA0+0302=1EAC
   1EA1+0302=1EAD 0102+0301=1EAE 0103+0301=1EAF 0102+0300=1EB0 0103+0300=1EB1
   0102+0309=1EB2 0103+0309=1EB3 0102+0303=1EB4 0103+0303=1EB5 1EA0+0306=1EB6
   1EA1+0306=1EB7 0045+0323=1EB8 0065+0323=1EB9 0045+0309=1EBA 0065+0309=1EBB
   0045+0303=1EBC 0065+0303=1EBD 00CA+0301=1EBE 00EA+0301=1EBF 00CA+0300=1EC0
   00EA+0300=1EC1 00CA+0309=1EC2 00EA+0309=1EC3 00CA+0303=1EC4 00EA+0303=1EC5
   1EB8+0302=1EC6 1EB9+0302=1EC7 0049+0309=1EC8 0069+0309=1EC9 0049+0323=1ECA
   0069+0323=1ECB 004F+0323=1ECC 006F+0323=1ECD 004F+0309=1ECE 006F+0309=1ECF
   00D4+0301=1ED0 00F4+0301=1ED1 00D4+0300=1ED2 00F4+0300=1ED3 00D4+0309=1ED4
   00F4+0309=1ED5 00D4+0303=1ED6 00F4+0303=1ED7 1ECC+0302=1ED8 1ECD+0302=1ED9
   01A0+0301=1EDA 01A1+0301=1EDB 01A0+0300=1EDC 01A1+0300=1EDD 01A0+0309=1EDE
   01A1+0309=1EDF 01A0+0303=1EE0 01A1+0303=1EE1 01A0+0323=1EE2 01A1+0323=1EE3
   0055+0323=1EE4 0075+0323=1EE5 0055+0309=1EE6 0075+0309=1EE7 01AF+0301=1EE8
   01B0+0301=1EE9 01AF+0300=1EEA 01B0+0300=1EEB 01AF+0309=1EEC 01B0+0309=1EED
   01AF+0303=1EEE 01B0+0303=1EEF 01AF+0323=1EF0 01B0+0323=1EF1 0059+0300=1EF2
   0079+0300=1EF3 0059+0323=1EF4 0079+0323=1EF5 0059+0309=1EF6 0079+0309=1EF7
   0059+0303=1EF8 0079+0303=1EF9 03B1+0313=1F00 03B1+0314=1F01 1F00+0300=1F02
   1F01+0300=1F03 1F00+0301=1F04 1F01+0301=1F05 1F00+0342=1F06 1F01+0342=1F07
   0391+0313=1F08 0391+0314=1F09 1F08+0300=1F0A 1F09+0300=1F0B 1F08+0301=1F0C
   1F09+0301=1F0D 1F08+0342=1F0E 1F09+0342=1F0F 03B5+0313=1F10 03B5+0314=1F11
   1F10+0300=1F12 1F11+0300=1F13 1F10+0301=1F14 1F11+0301=1F15 0395+0313=1F18
   0395+0314=1F19 1F18+0300=1F1A 1F19+0300=1F1B 1F18+0301=1F1C 1F19+0301=1F1D
   03B7+0313=1F20 03B7+0314=1F21 1F20+0300=1F22 1F21+0300=1F23 1F20+0301=1F24
   1F21+0301=1F25 1F20+0342=1F26 1F21+0342=1F27 0397+0313=1F28 0397+0314=1F29
   1F28+0300=1F2A 1F29+0300=1F2B 1F28+0301=1F2C 1F29+0301=1F2D 1F28+0342=1F2E
   1F29+0342=1F2F 03B9+0313=1F30 03B9+0314=1F31 1F30+0300=1F32 1F31+0300=1F33
   1F30+0301=1F34 1F31+0301=1F35 1F30+0342=1F36 1F31+0342=1F37 0399+0313=1F38
   0399+0314=1F39 1F38+0300=1F3A 1F39+0300=1F3B 1F38+0301=1F3C 1F39+0301=1F3D
   1F38+0342=1F3E 1F39+0342=1F3F 03BF+0313=1F40 03BF+0314=1F41 1F40+0300=1F42
   1F41+0300=1F43 1F40+0301=1F44 1F41+0301=1F45 039F+0313=1F48 039F+0314=1F49
   1F48+0300=1F4A 1F49+0300=1F4B 1F48+0301=1F4C 1F49+0301=1F4D 03C5+0313=1F50
   03C5+0314=1F51 1F50+0300=1F52 1F51+0300=1F53 1F50+0301=1F54 1F51+0301=1F55
   1F50+0342=1F56 1F51+0342=1F57 03A5+0314=1F59 1F59+0300=1F5B 1F59+0301=1F5D
   1F59+0342=1F5F 03C9+0313=1F60 03C9+0314=1F61 1F60+0300=1F62 1F61+0300=1F63
   1F60+0301=1F64 1F61+0301=1F65 1F60+0342=1F66 1F61+0342=1F67 03A9+0313=1F68
   03A9+0314=1F69 1F68+0300=1F6A 1F69+0300=1F6B 1F68+0301=1F6C 1F69+0301=1F6D
   1F68+0342=1F6E 1F69+0342=1F6F 03B1+0300=1F70 03B5+0300=1F72 03B7+0300=1F74
   03B9+0300=1F76 03BF+0300=1F78 03C5+0300=1F7A 03C9+0300=1F7C 1F00+0345=1F80
   1F01+0345=1F81 1F02+0345=1F82 1F03+0345=1F83 1F04+0345=1F84 1F05+0345=1F85
   1F06+0345=1F86 1F07+0345=1F87 1F08+0345=1F88 1F09+0345=1F89 1F0A+0345=1F8A
   1F0B+0345=1F8B 1F0C+0345=1F8C 1F0D+0345=1F8D 1F0E+0345=1F8E 1F0F+0345=1F8F
   1F20+0345=1F90 1F21+0345=1F91 1F22+0345=1F92 1F23+0345=1F93 1F24+0345=1F94
   1F25+0345=1F95 1F26+0345=1F96 1F27+0345=1F97 1F28+0345=1F98 1F29+0345=1F99
   1F2A+0345=1F9A 1F2B+0345=1F9B 1F2C+0345=1F9C 1F2D+0345=1F9D 1F2E+0345=1F9E
   1F2F+0345=1F9F 1F60+0345=1FA0 1F61+0345=1FA1 1F62+0345=1FA2 1F63+0345=1FA3
   1F64+0345=1FA4 1F65+0345=1FA5 1F66+0345=1FA6 1F67+0345=1FA7 1F68+0345=1FA8
   1F69+0345=1FA9 1F6A+0345=1FAA 1F6B+0345=1FAB 1F6C+0345=1FAC 1F6D+0345=1FAD
   1F6E+0345=1FAE 1F6F+0345=1FAF 03B1+0306=1FB0 03B1+0304=1FB1 1F70+0345=1FB2
   03B1+0345=1FB3 03AC+0345=1FB4 03B1+0342=1FB6 1FB6+0345=1FB7 0391+0306=1FB8
   0391+0304=1FB9 0391+0300=1FBA 0391+0345=1FBC 00A8+0342=1FC1 1F74+0345=1FC2
   03B7+0345=1FC3 03AE+0345=1FC4 03B7+0342=1FC6 1FC6+0345=1FC7 0395+0300=1FC8
   0397+0300=1FCA 0397+0345=1FCC 1FBF+0300=1FCD 1FBF+0301=1FCE 1FBF+0342=1FCF
   03B9+0306=1FD0 03B9+0304=1FD1 03CA+0300=1FD2 03B9+0342=1FD6 03CA+0342=1FD7
   0399+0306=1FD8 0399+0304=1FD9 0399+0300=1FDA 1FFE+0300=1FDD 1FFE+0301=1FDE
   1FFE+0342=1FDF 03C5+0306=1FE0 03C5+0304=1FE1 03CB+0300=1FE2 03C1+0313=1FE4
   03C1+0314=1FE5 03C5+0342=1FE6 03CB+0342=1FE7 03A5+0306=1FE8 03A5+0304=1FE9
   03A5+0300=1FEA 03A1+0314=1FEC 00A8+0300=1FED 1F7C+0345=1FF2 03C9+0345=1FF3
   03CE+0345=1FF4 03C9+0342=1FF6 1FF6+0345=1FF7 039F+0300=1FF8 03A9+0300=1FFA
   03A9+0345=1FFC 2190+0338=219A 2192+0338=219B 2194+0338=21AE 21D0+0338=21CD
   21D4+0338=21CE 21D2+0338=21CF 2203+0338=2204 2208+0338=2209 220B+0338=220C
   2223+0338=2224 2225+0338=2226 223C+0338=2241 2243+0338=2244 2245+0338=2247
   2248+0338=2249 003D+0338=2260 2261+0338=2262 224D+0338=226D 003C+0338=226E
   003E+0338=226F 2264+0338=2270 2265+0338=2271 2272+0338=2274 2273+0338=2275
   2276+0338=2278 2277+0338=2279 227A+0338=2280 227B+0338=2281 2282+0338=2284
   2283+0338=2285 2286+0338=2288 2287+0338=2289 22A2+0338=22AC 22A8+0338=22AD
   22A9+0338=22AE 22AB+0338=22AF 227C+0338=22E0 227D+0338=22E1 2291+0338=22E2
   2292+0338=22E3 22B2+0338=22EA 22B3+0338=22EB 22B4+0338=22EC 22B5+0338=22ED
   304B+3099=304C 304D+3099=304E 304F+3099=3050 3051+3099=3052 3053+3099=3054
   3055+3099=3056 3057+3099=3058 3059+3099=305A 305B+3099=305C 305D+3099=305E
   305F+3099=3060 3061+3099=3062 3064+3099=3065 3066+3099=3067 3068+3099=3069
   306F+3099=3070 306F+309A=3071 3072+3099=3073 3072+309A=3074 3075+3099=3076
   3075+309A=3077 3078+3099=3079 3078+309A=307A 307B+3099=307C 307B+309A=307D
   3046+3099=3094 309D+3099=309E 30AB+3099=30AC 30AD+3099=30AE 30AF+3099=30B0
   30B1+3099=30B2 30B3+3099=30B4 30B5+3099=30B6 30B7+3099=30B8 30B9+3099=30BA
   30BB+3099=30BC 30BD+3099=30BE 30BF+3099=30C0 30C1+3099=30C2 30C4+3099=30C5
   30C6+3099=30C7 30C8+3099=30C9 30CF+3099=30D0 30CF+309A=30D1 30D2+3099=30D3
   30D2+309A=30D4 30D5+3099=30D6 30D5+309A=30D7 30D8+3099=30D9 30D8+309A=30DA
   30DB+3099=30DC 30DB+309A=30DD 30A6+3099=30F4 30EF+3099=30F7 30F0+3099=30F8
   30F1+3099=30F9 30F2+3099=30FA 30FD+3099=30FE 105D2+0307=105C9
   105DA+0307=105E4 11099+110BA=1109A 1109B+110BA=1109C 110A5+110BA=110AB
   11131+11127=1112E 11132+11127=1112F 11347+1133E=1134B 11347+11357=1134C
   11382+113C9=11383 11384+113BB=11385 1138B+113C2=1138E 11390+113C9=11391
   113C2+113C2=113C5 113C2+113B8=113C7 113C2+113C9=113C8 114B9+114BA=114BB
   114B9+114B0=114BC 114B9+114BD=114BE 115B8+115AF=115BA 115B9+115AF=115BB
   11935+11930=11938 1611E+1611E=16121 1611E+16129=16122 1611E+1611F=16123
   16129+1611F=16124 1611E+16120=16125 16121+1611F=16126 16122+1611F=16127
   16121+16120=16128 16D67+16D67=16D68 16D63+16D67=16D69 16D69+16D67=16D6A"

def composites : List Composite :=
  (words compositeTable).filterMap readComposite?

end CivicRegistry.Text
