import HbarKit.Text.Table

/-!
# Letter case of characters

The simple lowercase mapping as runs of code points at a fixed distance from each other, and the
two classes that decide the form of a final sigma: characters that have case, and characters that
are passed over when looking for one.
-/
namespace HbarKit.Text

/-- A run of uppercase code points at a distance `step` from each other, and the lowercase of the
first of them. The lowercase of the others has the same distance to them. -/
structure CaseRun where
  first : Nat
  last : Nat
  step : Nat
  target : Nat

def CaseRun.contains (r : CaseRun) (n : Nat) : Bool :=
  r.first ≤ n && n ≤ r.last && (n - r.first) % r.step == 0

def CaseRun.lowercase (r : CaseRun) (n : Nat) : Nat := n - r.first + r.target

def lowercaseRuns : List CaseRun :=
  [⟨0x41, 0x5A, 1, 0x61⟩, ⟨0xC0, 0xD6, 1, 0xE0⟩, ⟨0xD8, 0xDE, 1, 0xF8⟩, ⟨0x100, 0x12E, 2, 0x101⟩,
    ⟨0x132, 0x136, 2, 0x133⟩, ⟨0x139, 0x147, 2, 0x13A⟩, ⟨0x14A, 0x176, 2, 0x14B⟩,
    ⟨0x178, 0x178, 1, 0xFF⟩, ⟨0x179, 0x17D, 2, 0x17A⟩, ⟨0x181, 0x181, 1, 0x253⟩,
    ⟨0x182, 0x184, 2, 0x183⟩, ⟨0x186, 0x186, 1, 0x254⟩, ⟨0x187, 0x187, 1, 0x188⟩,
    ⟨0x189, 0x18A, 1, 0x256⟩, ⟨0x18B, 0x18B, 1, 0x18C⟩, ⟨0x18E, 0x18E, 1, 0x1DD⟩,
    ⟨0x18F, 0x18F, 1, 0x259⟩, ⟨0x190, 0x190, 1, 0x25B⟩, ⟨0x191, 0x191, 1, 0x192⟩,
    ⟨0x193, 0x193, 1, 0x260⟩, ⟨0x194, 0x194, 1, 0x263⟩, ⟨0x196, 0x196, 1, 0x269⟩,
    ⟨0x197, 0x197, 1, 0x268⟩, ⟨0x198, 0x198, 1, 0x199⟩, ⟨0x19C, 0x19C, 1, 0x26F⟩,
    ⟨0x19D, 0x19D, 1, 0x272⟩, ⟨0x19F, 0x19F, 1, 0x275⟩, ⟨0x1A0, 0x1A4, 2, 0x1A1⟩,
    ⟨0x1A6, 0x1A6, 1, 0x280⟩, ⟨0x1A7, 0x1A7, 1, 0x1A8⟩, ⟨0x1A9, 0x1A9, 1, 0x283⟩,
    ⟨0x1AC, 0x1AC, 1, 0x1AD⟩, ⟨0x1AE, 0x1AE, 1, 0x288⟩, ⟨0x1AF, 0x1AF, 1, 0x1B0⟩,
    ⟨0x1B1, 0x1B2, 1, 0x28A⟩, ⟨0x1B3, 0x1B5, 2, 0x1B4⟩, ⟨0x1B7, 0x1B7, 1, 0x292⟩,
    ⟨0x1B8, 0x1B8, 1, 0x1B9⟩, ⟨0x1BC, 0x1BC, 1, 0x1BD⟩, ⟨0x1C4, 0x1C4, 1, 0x1C6⟩,
    ⟨0x1C5, 0x1C5, 1, 0x1C6⟩, ⟨0x1C7, 0x1C7, 1, 0x1C9⟩, ⟨0x1C8, 0x1C8, 1, 0x1C9⟩,
    ⟨0x1CA, 0x1CA, 1, 0x1CC⟩, ⟨0x1CB, 0x1DB, 2, 0x1CC⟩, ⟨0x1DE, 0x1EE, 2, 0x1DF⟩,
    ⟨0x1F1, 0x1F1, 1, 0x1F3⟩, ⟨0x1F2, 0x1F4, 2, 0x1F3⟩, ⟨0x1F6, 0x1F6, 1, 0x195⟩,
    ⟨0x1F7, 0x1F7, 1, 0x1BF⟩, ⟨0x1F8, 0x21E, 2, 0x1F9⟩, ⟨0x220, 0x220, 1, 0x19E⟩,
    ⟨0x222, 0x232, 2, 0x223⟩, ⟨0x23A, 0x23A, 1, 0x2C65⟩, ⟨0x23B, 0x23B, 1, 0x23C⟩,
    ⟨0x23D, 0x23D, 1, 0x19A⟩, ⟨0x23E, 0x23E, 1, 0x2C66⟩, ⟨0x241, 0x241, 1, 0x242⟩,
    ⟨0x243, 0x243, 1, 0x180⟩, ⟨0x244, 0x244, 1, 0x289⟩, ⟨0x245, 0x245, 1, 0x28C⟩,
    ⟨0x246, 0x24E, 2, 0x247⟩, ⟨0x370, 0x372, 2, 0x371⟩, ⟨0x376, 0x376, 1, 0x377⟩,
    ⟨0x37F, 0x37F, 1, 0x3F3⟩, ⟨0x386, 0x386, 1, 0x3AC⟩, ⟨0x388, 0x38A, 1, 0x3AD⟩,
    ⟨0x38C, 0x38C, 1, 0x3CC⟩, ⟨0x38E, 0x38F, 1, 0x3CD⟩, ⟨0x391, 0x3A1, 1, 0x3B1⟩,
    ⟨0x3A3, 0x3AB, 1, 0x3C3⟩, ⟨0x3CF, 0x3CF, 1, 0x3D7⟩, ⟨0x3D8, 0x3EE, 2, 0x3D9⟩,
    ⟨0x3F4, 0x3F4, 1, 0x3B8⟩, ⟨0x3F7, 0x3F7, 1, 0x3F8⟩, ⟨0x3F9, 0x3F9, 1, 0x3F2⟩,
    ⟨0x3FA, 0x3FA, 1, 0x3FB⟩, ⟨0x3FD, 0x3FF, 1, 0x37B⟩, ⟨0x400, 0x40F, 1, 0x450⟩,
    ⟨0x410, 0x42F, 1, 0x430⟩, ⟨0x460, 0x480, 2, 0x461⟩, ⟨0x48A, 0x4BE, 2, 0x48B⟩,
    ⟨0x4C0, 0x4C0, 1, 0x4CF⟩, ⟨0x4C1, 0x4CD, 2, 0x4C2⟩, ⟨0x4D0, 0x52E, 2, 0x4D1⟩,
    ⟨0x531, 0x556, 1, 0x561⟩, ⟨0x10A0, 0x10C5, 1, 0x2D00⟩, ⟨0x10C7, 0x10C7, 1, 0x2D27⟩,
    ⟨0x10CD, 0x10CD, 1, 0x2D2D⟩, ⟨0x13A0, 0x13EF, 1, 0xAB70⟩, ⟨0x13F0, 0x13F5, 1, 0x13F8⟩,
    ⟨0x1C89, 0x1C89, 1, 0x1C8A⟩, ⟨0x1C90, 0x1CBA, 1, 0x10D0⟩, ⟨0x1CBD, 0x1CBF, 1, 0x10FD⟩,
    ⟨0x1E00, 0x1E94, 2, 0x1E01⟩, ⟨0x1E9E, 0x1E9E, 1, 0xDF⟩, ⟨0x1EA0, 0x1EFE, 2, 0x1EA1⟩,
    ⟨0x1F08, 0x1F0F, 1, 0x1F00⟩, ⟨0x1F18, 0x1F1D, 1, 0x1F10⟩, ⟨0x1F28, 0x1F2F, 1, 0x1F20⟩,
    ⟨0x1F38, 0x1F3F, 1, 0x1F30⟩, ⟨0x1F48, 0x1F4D, 1, 0x1F40⟩, ⟨0x1F59, 0x1F5F, 2, 0x1F51⟩,
    ⟨0x1F68, 0x1F6F, 1, 0x1F60⟩, ⟨0x1F88, 0x1F8F, 1, 0x1F80⟩, ⟨0x1F98, 0x1F9F, 1, 0x1F90⟩,
    ⟨0x1FA8, 0x1FAF, 1, 0x1FA0⟩, ⟨0x1FB8, 0x1FB9, 1, 0x1FB0⟩, ⟨0x1FBA, 0x1FBB, 1, 0x1F70⟩,
    ⟨0x1FBC, 0x1FBC, 1, 0x1FB3⟩, ⟨0x1FC8, 0x1FCB, 1, 0x1F72⟩, ⟨0x1FCC, 0x1FCC, 1, 0x1FC3⟩,
    ⟨0x1FD8, 0x1FD9, 1, 0x1FD0⟩, ⟨0x1FDA, 0x1FDB, 1, 0x1F76⟩, ⟨0x1FE8, 0x1FE9, 1, 0x1FE0⟩,
    ⟨0x1FEA, 0x1FEB, 1, 0x1F7A⟩, ⟨0x1FEC, 0x1FEC, 1, 0x1FE5⟩, ⟨0x1FF8, 0x1FF9, 1, 0x1F78⟩,
    ⟨0x1FFA, 0x1FFB, 1, 0x1F7C⟩, ⟨0x1FFC, 0x1FFC, 1, 0x1FF3⟩, ⟨0x2126, 0x2126, 1, 0x3C9⟩,
    ⟨0x212A, 0x212A, 1, 0x6B⟩, ⟨0x212B, 0x212B, 1, 0xE5⟩, ⟨0x2132, 0x2132, 1, 0x214E⟩,
    ⟨0x2160, 0x216F, 1, 0x2170⟩, ⟨0x2183, 0x2183, 1, 0x2184⟩, ⟨0x24B6, 0x24CF, 1, 0x24D0⟩,
    ⟨0x2C00, 0x2C2F, 1, 0x2C30⟩, ⟨0x2C60, 0x2C60, 1, 0x2C61⟩, ⟨0x2C62, 0x2C62, 1, 0x26B⟩,
    ⟨0x2C63, 0x2C63, 1, 0x1D7D⟩, ⟨0x2C64, 0x2C64, 1, 0x27D⟩, ⟨0x2C67, 0x2C6B, 2, 0x2C68⟩,
    ⟨0x2C6D, 0x2C6D, 1, 0x251⟩, ⟨0x2C6E, 0x2C6E, 1, 0x271⟩, ⟨0x2C6F, 0x2C6F, 1, 0x250⟩,
    ⟨0x2C70, 0x2C70, 1, 0x252⟩, ⟨0x2C72, 0x2C72, 1, 0x2C73⟩, ⟨0x2C75, 0x2C75, 1, 0x2C76⟩,
    ⟨0x2C7E, 0x2C7F, 1, 0x23F⟩, ⟨0x2C80, 0x2CE2, 2, 0x2C81⟩, ⟨0x2CEB, 0x2CED, 2, 0x2CEC⟩,
    ⟨0x2CF2, 0x2CF2, 1, 0x2CF3⟩, ⟨0xA640, 0xA66C, 2, 0xA641⟩, ⟨0xA680, 0xA69A, 2, 0xA681⟩,
    ⟨0xA722, 0xA72E, 2, 0xA723⟩, ⟨0xA732, 0xA76E, 2, 0xA733⟩, ⟨0xA779, 0xA77B, 2, 0xA77A⟩,
    ⟨0xA77D, 0xA77D, 1, 0x1D79⟩, ⟨0xA77E, 0xA786, 2, 0xA77F⟩, ⟨0xA78B, 0xA78B, 1, 0xA78C⟩,
    ⟨0xA78D, 0xA78D, 1, 0x265⟩, ⟨0xA790, 0xA792, 2, 0xA791⟩, ⟨0xA796, 0xA7A8, 2, 0xA797⟩,
    ⟨0xA7AA, 0xA7AA, 1, 0x266⟩, ⟨0xA7AB, 0xA7AB, 1, 0x25C⟩, ⟨0xA7AC, 0xA7AC, 1, 0x261⟩,
    ⟨0xA7AD, 0xA7AD, 1, 0x26C⟩, ⟨0xA7AE, 0xA7AE, 1, 0x26A⟩, ⟨0xA7B0, 0xA7B0, 1, 0x29E⟩,
    ⟨0xA7B1, 0xA7B1, 1, 0x287⟩, ⟨0xA7B2, 0xA7B2, 1, 0x29D⟩, ⟨0xA7B3, 0xA7B3, 1, 0xAB53⟩,
    ⟨0xA7B4, 0xA7C2, 2, 0xA7B5⟩, ⟨0xA7C4, 0xA7C4, 1, 0xA794⟩, ⟨0xA7C5, 0xA7C5, 1, 0x282⟩,
    ⟨0xA7C6, 0xA7C6, 1, 0x1D8E⟩, ⟨0xA7C7, 0xA7C9, 2, 0xA7C8⟩, ⟨0xA7CB, 0xA7CB, 1, 0x264⟩,
    ⟨0xA7CC, 0xA7DA, 2, 0xA7CD⟩, ⟨0xA7DC, 0xA7DC, 1, 0x19B⟩, ⟨0xA7F5, 0xA7F5, 1, 0xA7F6⟩,
    ⟨0xFF21, 0xFF3A, 1, 0xFF41⟩, ⟨0x10400, 0x10427, 1, 0x10428⟩, ⟨0x104B0, 0x104D3, 1, 0x104D8⟩,
    ⟨0x10570, 0x1057A, 1, 0x10597⟩, ⟨0x1057C, 0x1058A, 1, 0x105A3⟩, ⟨0x1058C, 0x10592, 1, 0x105B3⟩,
    ⟨0x10594, 0x10595, 1, 0x105BB⟩, ⟨0x10C80, 0x10CB2, 1, 0x10CC0⟩, ⟨0x10D50, 0x10D65, 1, 0x10D70⟩,
    ⟨0x118A0, 0x118BF, 1, 0x118C0⟩, ⟨0x16E40, 0x16E5F, 1, 0x16E60⟩, ⟨0x16EA0, 0x16EB8, 1, 0x16EBB⟩,
    ⟨0x1E900, 0x1E921, 1, 0x1E922⟩]

def casedRanges : List (Nat × Nat) := Table.ranges
    ["41 5A;61 7A;AA;B5;BA;C0 D6;D8 F6;F8 1BA;1BC 1BF;1C4 293;296 2B8;2C0 2C1;2E0 2E4;345;370 373",
    "376 377;37A 37D;37F;386;388 38A;38C;38E 3A1;3A3 3F5;3F7 481;48A 52F;531 556;560 588",
    "10A0 10C5;10C7;10CD;10D0 10FA;10FC 10FF;13A0 13F5;13F8 13FD;1C80 1C8A;1C90 1CBA;1CBD 1CBF",
    "1D00 1DBF;1E00 1F15;1F18 1F1D;1F20 1F45;1F48 1F4D;1F50 1F57;1F59;1F5B;1F5D;1F5F 1F7D",
    "1F80 1FB4;1FB6 1FBC;1FBE;1FC2 1FC4;1FC6 1FCC;1FD0 1FD3;1FD6 1FDB;1FE0 1FEC;1FF2 1FF4",
    "1FF6 1FFC;2071;207F;2090 209C;2102;2107;210A 2113;2115;2119 211D;2124;2126;2128;212A 212D",
    "212F 2134;2139;213C 213F;2145 2149;214E;2160 217F;2183 2184;24B6 24E9;2C00 2CE4;2CEB 2CEE",
    "2CF2 2CF3;2D00 2D25;2D27;2D2D;A640 A66D;A680 A69D;A722 A787;A78B A78E;A790 A7DC;A7F1 A7F6",
    "A7F8 A7FA;AB30 AB5A;AB5C AB69;AB70 ABBF;FB00 FB06;FB13 FB17;FF21 FF3A;FF41 FF5A;10400 1044F",
    "104B0 104D3;104D8 104FB;10570 1057A;1057C 1058A;1058C 10592;10594 10595;10597 105A1",
    "105A3 105B1;105B3 105B9;105BB 105BC;10780;10783 10785;10787 107B0;107B2 107BA;10C80 10CB2",
    "10CC0 10CF2;10D50 10D65;10D70 10D85;118A0 118DF;16E40 16E7F;16EA0 16EB8;16EBB 16ED3",
    "1D400 1D454;1D456 1D49C;1D49E 1D49F;1D4A2;1D4A5 1D4A6;1D4A9 1D4AC;1D4AE 1D4B9;1D4BB",
    "1D4BD 1D4C3;1D4C5 1D505;1D507 1D50A;1D50D 1D514;1D516 1D51C;1D51E 1D539;1D53B 1D53E",
    "1D540 1D544;1D546;1D54A 1D550;1D552 1D6A5;1D6A8 1D6C0;1D6C2 1D6DA;1D6DC 1D6FA;1D6FC 1D714",
    "1D716 1D734;1D736 1D74E;1D750 1D76E;1D770 1D788;1D78A 1D7A8;1D7AA 1D7C2;1D7C4 1D7CB",
    "1DF00 1DF09;1DF0B 1DF1E;1DF25 1DF2A;1E030 1E06D;1E900 1E943;1F130 1F149;1F150 1F169",
    "1F170 1F189"]

def caseIgnorableRanges : List (Nat × Nat) := Table.ranges
    ["27;2E;3A;5E;60;A8;AD;AF;B4;B7 B8;2B0 36F;374 375;37A;384 385;387;483 489;559;55F;591 5BD;5BF",
    "5C1 5C2;5C4 5C5;5C7;5F4;600 605;610 61A;61C;640;64B 65F;670;6D6 6DD;6DF 6E8;6EA 6ED;70F;711",
    "730 74A;7A6 7B0;7EB 7F5;7FA;7FD;816 82D;859 85B;888;890 891;897 89F;8C9 902;93A;93C;941 948",
    "94D;951 957;962 963;971;981;9BC;9C1 9C4;9CD;9E2 9E3;9FE;A01 A02;A3C;A41 A42;A47 A48;A4B A4D",
    "A51;A70 A71;A75;A81 A82;ABC;AC1 AC5;AC7 AC8;ACD;AE2 AE3;AFA AFF;B01;B3C;B3F;B41 B44;B4D",
    "B55 B56;B62 B63;B82;BC0;BCD;C00;C04;C3C;C3E C40;C46 C48;C4A C4D;C55 C56;C62 C63;C81;CBC;CBF",
    "CC6;CCC CCD;CE2 CE3;D00 D01;D3B D3C;D41 D44;D4D;D62 D63;D81;DCA;DD2 DD4;DD6;E31;E34 E3A",
    "E46 E4E;EB1;EB4 EBC;EC6;EC8 ECE;F18 F19;F35;F37;F39;F71 F7E;F80 F84;F86 F87;F8D F97;F99 FBC",
    "FC6;102D 1030;1032 1037;1039 103A;103D 103E;1058 1059;105E 1060;1071 1074;1082;1085 1086",
    "108D;109D;10FC;135D 135F;1712 1714;1732 1733;1752 1753;1772 1773;17B4 17B5;17B7 17BD;17C6",
    "17C9 17D3;17D7;17DD;180B 180F;1843;1885 1886;18A9;1920 1922;1927 1928;1932;1939 193B",
    "1A17 1A18;1A1B;1A56;1A58 1A5E;1A60;1A62;1A65 1A6C;1A73 1A7C;1A7F;1AA7;1AB0 1ADD;1AE0 1AEB",
    "1B00 1B03;1B34;1B36 1B3A;1B3C;1B42;1B6B 1B73;1B80 1B81;1BA2 1BA5;1BA8 1BA9;1BAB 1BAD;1BE6",
    "1BE8 1BE9;1BED;1BEF 1BF1;1C2C 1C33;1C36 1C37;1C78 1C7D;1CD0 1CD2;1CD4 1CE0;1CE2 1CE8;1CED",
    "1CF4;1CF8 1CF9;1D2C 1D6A;1D78;1D9B 1DFF;1FBD;1FBF 1FC1;1FCD 1FCF;1FDD 1FDF;1FED 1FEF",
    "1FFD 1FFE;200B 200F;2018 2019;2024;2027;202A 202E;2060 2064;2066 206F;2071;207F;2090 209C",
    "20D0 20F0;2C7C 2C7D;2CEF 2CF1;2D6F;2D7F;2DE0 2DFF;2E2F;3005;302A 302D;3031 3035;303B",
    "3099 309E;30FC 30FE;A015;A4F8 A4FD;A60C;A66F A672;A674 A67D;A67F;A69C A69F;A6F0 A6F1",
    "A700 A721;A770;A788 A78A;A7F1 A7F4;A7F8 A7F9;A802;A806;A80B;A825 A826;A82C;A8C4 A8C5",
    "A8E0 A8F1;A8FF;A926 A92D;A947 A951;A980 A982;A9B3;A9B6 A9B9;A9BC A9BD;A9CF;A9E5 A9E6",
    "AA29 AA2E;AA31 AA32;AA35 AA36;AA43;AA4C;AA70;AA7C;AAB0;AAB2 AAB4;AAB7 AAB8;AABE AABF;AAC1",
    "AADD;AAEC AAED;AAF3 AAF4;AAF6;AB5B AB5F;AB69 AB6B;ABE5;ABE8;ABED;FB1E;FBB2 FBC2;FE00 FE0F",
    "FE13;FE20 FE2F;FE52;FE55;FEFF;FF07;FF0E;FF1A;FF3E;FF40;FF70;FF9E FF9F;FFE3;FFF9 FFFB;101FD",
    "102E0;10376 1037A;10780 10785;10787 107B0;107B2 107BA;10A01 10A03;10A05 10A06;10A0C 10A0F",
    "10A38 10A3A;10A3F;10AE5 10AE6;10D24 10D27;10D4E;10D69 10D6D;10D6F;10EAB 10EAC;10EC5",
    "10EFA 10EFF;10F46 10F50;10F82 10F85;11001;11038 11046;11070;11073 11074;1107F 11081",
    "110B3 110B6;110B9 110BA;110BD;110C2;110CD;11100 11102;11127 1112B;1112D 11134;11173",
    "11180 11181;111B6 111BE;111C9 111CC;111CF;1122F 11231;11234;11236 11237;1123E;11241;112DF",
    "112E3 112EA;11300 11301;1133B 1133C;11340;11366 1136C;11370 11374;113BB 113C0;113CE;113D0",
    "113D2;113E1 113E2;11438 1143F;11442 11444;11446;1145E;114B3 114B8;114BA;114BF 114C0",
    "114C2 114C3;115B2 115B5;115BC 115BD;115BF 115C0;115DC 115DD;11633 1163A;1163D;1163F 11640",
    "116AB;116AD;116B0 116B5;116B7;1171D;1171F;11722 11725;11727 1172B;1182F 11837;11839 1183A",
    "1193B 1193C;1193E;11943;119D4 119D7;119DA 119DB;119E0;11A01 11A0A;11A33 11A38;11A3B 11A3E",
    "11A47;11A51 11A56;11A59 11A5B;11A8A 11A96;11A98 11A99;11B60;11B62 11B64;11B66;11C30 11C36",
    "11C38 11C3D;11C3F;11C92 11CA7;11CAA 11CB0;11CB2 11CB3;11CB5 11CB6;11D31 11D36;11D3A",
    "11D3C 11D3D;11D3F 11D45;11D47;11D90 11D91;11D95;11D97;11DD9;11EF3 11EF4;11F00 11F01",
    "11F36 11F3A;11F40;11F42;11F5A;13430 13440;13447 13455;1611E 16129;1612D 1612F;16AF0 16AF4",
    "16B30 16B36;16B40 16B43;16D40 16D42;16D6B 16D6C;16F4F;16F8F 16F9F;16FE0 16FE1;16FE3 16FE4",
    "16FF2 16FF3;1AFF0 1AFF3;1AFF5 1AFFB;1AFFD 1AFFE;1BC9D 1BC9E;1BCA0 1BCA3;1CF00 1CF2D",
    "1CF30 1CF46;1D167 1D169;1D173 1D182;1D185 1D18B;1D1AA 1D1AD;1D242 1D244;1DA00 1DA36",
    "1DA3B 1DA6C;1DA75;1DA84;1DA9B 1DA9F;1DAA1 1DAAF;1E000 1E006;1E008 1E018;1E01B 1E021",
    "1E023 1E024;1E026 1E02A;1E030 1E06D;1E08F;1E130 1E13D;1E2AE;1E2EC 1E2EF;1E4EB 1E4EF",
    "1E5EE 1E5EF;1E6E3;1E6E6;1E6EE 1E6EF;1E6F5;1E6FF;1E8D0 1E8D6;1E944 1E94B;1F3FB 1F3FF;E0001",
    "E0020 E007F;E0100 E01EF"]

end HbarKit.Text
