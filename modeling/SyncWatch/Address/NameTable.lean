import SyncWatch.Text.Runs

/-!
# Characters of host names

The characters beyond ASCII that stand for others in the name of a host, as runs
of equally spaced code points with one common shift, and those that are left
out of it or may not stand in it, all as of Unicode 17.
-/

namespace SyncWatch
namespace Address
namespace NameTable

/-- Capitals and wide, circled and mathematical forms, with the way to the small
and plain ones. -/
def plainForms : List Text.ShiftedRun :=
  [⟨0xB5, 0xB5, 1, 775⟩, ⟨0xC0, 0xD6, 1, 32⟩, ⟨0xD8, 0xDE, 1, 32⟩, ⟨0x100, 0x12E, 2, 1⟩,
    ⟨0x134, 0x136, 2, 1⟩, ⟨0x139, 0x13D, 2, 1⟩, ⟨0x141, 0x147, 2, 1⟩, ⟨0x14A, 0x176, 2, 1⟩,
    ⟨0x178, 0x178, 1, -121⟩, ⟨0x179, 0x17D, 2, 1⟩, ⟨0x17F, 0x17F, 1, -268⟩,
    ⟨0x181, 0x181, 1, 210⟩, ⟨0x182, 0x184, 2, 1⟩, ⟨0x186, 0x186, 1, 206⟩, ⟨0x187, 0x187, 1, 1⟩,
    ⟨0x189, 0x18A, 1, 205⟩, ⟨0x18B, 0x18B, 1, 1⟩, ⟨0x18E, 0x18E, 1, 79⟩, ⟨0x18F, 0x18F, 1, 202⟩,
    ⟨0x190, 0x190, 1, 203⟩, ⟨0x191, 0x191, 1, 1⟩, ⟨0x193, 0x193, 1, 205⟩, ⟨0x194, 0x194, 1, 207⟩,
    ⟨0x196, 0x196, 1, 211⟩, ⟨0x197, 0x197, 1, 209⟩, ⟨0x198, 0x198, 1, 1⟩, ⟨0x19C, 0x19C, 1, 211⟩,
    ⟨0x19D, 0x19D, 1, 213⟩, ⟨0x19F, 0x19F, 1, 214⟩, ⟨0x1A0, 0x1A4, 2, 1⟩, ⟨0x1A6, 0x1A6, 1, 218⟩,
    ⟨0x1A7, 0x1A7, 1, 1⟩, ⟨0x1A9, 0x1A9, 1, 218⟩, ⟨0x1AC, 0x1AC, 1, 1⟩, ⟨0x1AE, 0x1AE, 1, 218⟩,
    ⟨0x1AF, 0x1AF, 1, 1⟩, ⟨0x1B1, 0x1B2, 1, 217⟩, ⟨0x1B3, 0x1B5, 2, 1⟩, ⟨0x1B7, 0x1B7, 1, 219⟩,
    ⟨0x1B8, 0x1B8, 1, 1⟩, ⟨0x1BC, 0x1BC, 1, 1⟩, ⟨0x1CD, 0x1DB, 2, 1⟩, ⟨0x1DE, 0x1EE, 2, 1⟩,
    ⟨0x1F4, 0x1F4, 1, 1⟩, ⟨0x1F6, 0x1F6, 1, -97⟩, ⟨0x1F7, 0x1F7, 1, -56⟩, ⟨0x1F8, 0x21E, 2, 1⟩,
    ⟨0x220, 0x220, 1, -130⟩, ⟨0x222, 0x232, 2, 1⟩, ⟨0x23A, 0x23A, 1, 10795⟩, ⟨0x23B, 0x23B, 1, 1⟩,
    ⟨0x23D, 0x23D, 1, -163⟩, ⟨0x23E, 0x23E, 1, 10792⟩, ⟨0x241, 0x241, 1, 1⟩,
    ⟨0x243, 0x243, 1, -195⟩, ⟨0x244, 0x244, 1, 69⟩, ⟨0x245, 0x245, 1, 71⟩, ⟨0x246, 0x24E, 2, 1⟩,
    ⟨0x345, 0x345, 1, 116⟩, ⟨0x370, 0x372, 2, 1⟩, ⟨0x376, 0x376, 1, 1⟩, ⟨0x37F, 0x37F, 1, 116⟩,
    ⟨0x386, 0x386, 1, 38⟩, ⟨0x388, 0x38A, 1, 37⟩, ⟨0x38C, 0x38C, 1, 64⟩, ⟨0x38E, 0x38F, 1, 63⟩,
    ⟨0x391, 0x3A1, 1, 32⟩, ⟨0x3A3, 0x3AB, 1, 32⟩, ⟨0x3CF, 0x3CF, 1, 8⟩, ⟨0x3D0, 0x3D0, 1, -30⟩,
    ⟨0x3D1, 0x3D1, 1, -25⟩, ⟨0x3D5, 0x3D5, 1, -15⟩, ⟨0x3D6, 0x3D6, 1, -22⟩, ⟨0x3D8, 0x3EE, 2, 1⟩,
    ⟨0x3F0, 0x3F0, 1, -54⟩, ⟨0x3F1, 0x3F1, 1, -48⟩, ⟨0x3F2, 0x3F2, 1, -47⟩,
    ⟨0x3F4, 0x3F4, 1, -60⟩, ⟨0x3F5, 0x3F5, 1, -64⟩, ⟨0x3F7, 0x3F7, 1, 1⟩, ⟨0x3F9, 0x3F9, 1, -54⟩,
    ⟨0x3FA, 0x3FA, 1, 1⟩, ⟨0x3FD, 0x3FF, 1, -130⟩, ⟨0x400, 0x40F, 1, 80⟩, ⟨0x410, 0x42F, 1, 32⟩,
    ⟨0x460, 0x480, 2, 1⟩, ⟨0x48A, 0x4BE, 2, 1⟩, ⟨0x4C0, 0x4C0, 1, 15⟩, ⟨0x4C1, 0x4CD, 2, 1⟩,
    ⟨0x4D0, 0x52E, 2, 1⟩, ⟨0x531, 0x556, 1, 48⟩, ⟨0x10A0, 0x10C5, 1, 7264⟩,
    ⟨0x10C7, 0x10C7, 1, 7264⟩, ⟨0x10CD, 0x10CD, 1, 7264⟩, ⟨0x13F8, 0x13FD, 1, -8⟩,
    ⟨0x1C80, 0x1C80, 1, -6222⟩, ⟨0x1C81, 0x1C81, 1, -6221⟩, ⟨0x1C82, 0x1C82, 1, -6212⟩,
    ⟨0x1C83, 0x1C84, 1, -6210⟩, ⟨0x1C85, 0x1C85, 1, -6211⟩, ⟨0x1C86, 0x1C86, 1, -6204⟩,
    ⟨0x1C87, 0x1C87, 1, -6180⟩, ⟨0x1C88, 0x1C88, 1, 35267⟩, ⟨0x1C89, 0x1C89, 1, 1⟩,
    ⟨0x1C90, 0x1CBA, 1, -3008⟩, ⟨0x1CBD, 0x1CBF, 1, -3008⟩, ⟨0x1E00, 0x1E94, 2, 1⟩,
    ⟨0x1E9B, 0x1E9B, 1, -58⟩, ⟨0x1E9E, 0x1E9E, 1, -7615⟩, ⟨0x1EA0, 0x1EFE, 2, 1⟩,
    ⟨0x1F08, 0x1F0F, 1, -8⟩, ⟨0x1F18, 0x1F1D, 1, -8⟩, ⟨0x1F28, 0x1F2F, 1, -8⟩,
    ⟨0x1F38, 0x1F3F, 1, -8⟩, ⟨0x1F48, 0x1F4D, 1, -8⟩, ⟨0x1F59, 0x1F5F, 2, -8⟩,
    ⟨0x1F68, 0x1F6F, 1, -8⟩, ⟨0x1F71, 0x1F71, 1, -7109⟩, ⟨0x1F73, 0x1F73, 1, -7110⟩,
    ⟨0x1F75, 0x1F75, 1, -7111⟩, ⟨0x1F77, 0x1F77, 1, -7112⟩, ⟨0x1F79, 0x1F79, 1, -7085⟩,
    ⟨0x1F7B, 0x1F7B, 1, -7086⟩, ⟨0x1F7D, 0x1F7D, 1, -7087⟩, ⟨0x1FB8, 0x1FB9, 1, -8⟩,
    ⟨0x1FBA, 0x1FBA, 1, -74⟩, ⟨0x1FBB, 0x1FBB, 1, -7183⟩, ⟨0x1FBE, 0x1FBE, 1, -7173⟩,
    ⟨0x1FC8, 0x1FC8, 1, -86⟩, ⟨0x1FC9, 0x1FC9, 1, -7196⟩, ⟨0x1FCA, 0x1FCA, 1, -86⟩,
    ⟨0x1FCB, 0x1FCB, 1, -7197⟩, ⟨0x1FD3, 0x1FD3, 1, -7235⟩, ⟨0x1FD8, 0x1FD9, 1, -8⟩,
    ⟨0x1FDA, 0x1FDA, 1, -100⟩, ⟨0x1FDB, 0x1FDB, 1, -7212⟩, ⟨0x1FE3, 0x1FE3, 1, -7219⟩,
    ⟨0x1FE8, 0x1FE9, 1, -8⟩, ⟨0x1FEA, 0x1FEA, 1, -112⟩, ⟨0x1FEB, 0x1FEB, 1, -7198⟩,
    ⟨0x1FEC, 0x1FEC, 1, -7⟩, ⟨0x1FF8, 0x1FF8, 1, -128⟩, ⟨0x1FF9, 0x1FF9, 1, -7213⟩,
    ⟨0x1FFA, 0x1FFA, 1, -126⟩, ⟨0x1FFB, 0x1FFB, 1, -7213⟩, ⟨0x2126, 0x2126, 1, -7517⟩,
    ⟨0x212A, 0x212A, 1, -8383⟩, ⟨0x212B, 0x212B, 1, -8262⟩, ⟨0x2132, 0x2132, 1, 28⟩,
    ⟨0x2160, 0x2160, 1, -8439⟩, ⟨0x2164, 0x2164, 1, -8430⟩, ⟨0x2169, 0x2169, 1, -8433⟩,
    ⟨0x216C, 0x216C, 1, -8448⟩, ⟨0x216D, 0x216E, 1, -8458⟩, ⟨0x216F, 0x216F, 1, -8450⟩,
    ⟨0x2170, 0x2170, 1, -8455⟩, ⟨0x2174, 0x2174, 1, -8446⟩, ⟨0x2179, 0x2179, 1, -8449⟩,
    ⟨0x217C, 0x217C, 1, -8464⟩, ⟨0x217D, 0x217E, 1, -8474⟩, ⟨0x217F, 0x217F, 1, -8466⟩,
    ⟨0x2183, 0x2183, 1, 1⟩, ⟨0x2460, 0x2468, 1, -9263⟩, ⟨0x24B6, 0x24CF, 1, -9301⟩,
    ⟨0x24D0, 0x24E9, 1, -9327⟩, ⟨0x24EA, 0x24EA, 1, -9402⟩, ⟨0x2C00, 0x2C2F, 1, 48⟩,
    ⟨0x2C60, 0x2C60, 1, 1⟩, ⟨0x2C62, 0x2C62, 1, -10743⟩, ⟨0x2C63, 0x2C63, 1, -3814⟩,
    ⟨0x2C64, 0x2C64, 1, -10727⟩, ⟨0x2C67, 0x2C6B, 2, 1⟩, ⟨0x2C6D, 0x2C6D, 1, -10780⟩,
    ⟨0x2C6E, 0x2C6E, 1, -10749⟩, ⟨0x2C6F, 0x2C6F, 1, -10783⟩, ⟨0x2C70, 0x2C70, 1, -10782⟩,
    ⟨0x2C72, 0x2C72, 1, 1⟩, ⟨0x2C75, 0x2C75, 1, 1⟩, ⟨0x2C7E, 0x2C7F, 1, -10815⟩,
    ⟨0x2C80, 0x2CE2, 2, 1⟩, ⟨0x2CEB, 0x2CED, 2, 1⟩, ⟨0x2CF2, 0x2CF2, 1, 1⟩,
    ⟨0x3002, 0x3002, 1, -12244⟩, ⟨0xA640, 0xA66C, 2, 1⟩, ⟨0xA680, 0xA69A, 2, 1⟩,
    ⟨0xA722, 0xA72E, 2, 1⟩, ⟨0xA732, 0xA76E, 2, 1⟩, ⟨0xA779, 0xA77B, 2, 1⟩,
    ⟨0xA77D, 0xA77D, 1, -35332⟩, ⟨0xA77E, 0xA786, 2, 1⟩, ⟨0xA78B, 0xA78B, 1, 1⟩,
    ⟨0xA78D, 0xA78D, 1, -42280⟩, ⟨0xA790, 0xA792, 2, 1⟩, ⟨0xA796, 0xA7A8, 2, 1⟩,
    ⟨0xA7AA, 0xA7AA, 1, -42308⟩, ⟨0xA7AB, 0xA7AB, 1, -42319⟩, ⟨0xA7AC, 0xA7AC, 1, -42315⟩,
    ⟨0xA7AD, 0xA7AD, 1, -42305⟩, ⟨0xA7AE, 0xA7AE, 1, -42308⟩, ⟨0xA7B0, 0xA7B0, 1, -42258⟩,
    ⟨0xA7B1, 0xA7B1, 1, -42282⟩, ⟨0xA7B2, 0xA7B2, 1, -42261⟩, ⟨0xA7B3, 0xA7B3, 1, 928⟩,
    ⟨0xA7B4, 0xA7C2, 2, 1⟩, ⟨0xA7C4, 0xA7C4, 1, -48⟩, ⟨0xA7C5, 0xA7C5, 1, -42307⟩,
    ⟨0xA7C6, 0xA7C6, 1, -35384⟩, ⟨0xA7C7, 0xA7C9, 2, 1⟩, ⟨0xA7CB, 0xA7CB, 1, -42343⟩,
    ⟨0xA7CC, 0xA7DA, 2, 1⟩, ⟨0xA7DC, 0xA7DC, 1, -42561⟩, ⟨0xA7F5, 0xA7F5, 1, 1⟩,
    ⟨0xAB70, 0xABBF, 1, -38864⟩, ⟨0xFF01, 0xFF20, 1, -65248⟩, ⟨0xFF21, 0xFF3A, 1, -65216⟩,
    ⟨0xFF3B, 0xFF5E, 1, -65248⟩, ⟨0xFF61, 0xFF61, 1, -65331⟩, ⟨0x10400, 0x10427, 1, 40⟩,
    ⟨0x104B0, 0x104D3, 1, 40⟩, ⟨0x10570, 0x1057A, 1, 39⟩, ⟨0x1057C, 0x1058A, 1, 39⟩,
    ⟨0x1058C, 0x10592, 1, 39⟩, ⟨0x10594, 0x10595, 1, 39⟩, ⟨0x10C80, 0x10CB2, 1, 64⟩,
    ⟨0x10D50, 0x10D65, 1, 32⟩, ⟨0x118A0, 0x118BF, 1, 32⟩, ⟨0x16E40, 0x16E5F, 1, 32⟩,
    ⟨0x16EA0, 0x16EB8, 1, 27⟩, ⟨0x1D400, 0x1D419, 1, -119711⟩, ⟨0x1D41A, 0x1D433, 1, -119737⟩,
    ⟨0x1D434, 0x1D44D, 1, -119763⟩, ⟨0x1D44E, 0x1D454, 1, -119789⟩,
    ⟨0x1D456, 0x1D467, 1, -119789⟩, ⟨0x1D468, 0x1D481, 1, -119815⟩,
    ⟨0x1D482, 0x1D49B, 1, -119841⟩, ⟨0x1D49C, 0x1D49E, 2, -119867⟩,
    ⟨0x1D49F, 0x1D49F, 1, -119867⟩, ⟨0x1D4A2, 0x1D4A2, 1, -119867⟩,
    ⟨0x1D4A5, 0x1D4A6, 1, -119867⟩, ⟨0x1D4A9, 0x1D4AC, 1, -119867⟩,
    ⟨0x1D4AE, 0x1D4B5, 1, -119867⟩, ⟨0x1D4B6, 0x1D4B9, 1, -119893⟩,
    ⟨0x1D4BB, 0x1D4BD, 2, -119893⟩, ⟨0x1D4BE, 0x1D4C3, 1, -119893⟩,
    ⟨0x1D4C5, 0x1D4CF, 1, -119893⟩, ⟨0x1D4D0, 0x1D4E9, 1, -119919⟩,
    ⟨0x1D4EA, 0x1D503, 1, -119945⟩, ⟨0x1D504, 0x1D505, 1, -119971⟩,
    ⟨0x1D507, 0x1D50A, 1, -119971⟩, ⟨0x1D50D, 0x1D514, 1, -119971⟩,
    ⟨0x1D516, 0x1D51C, 1, -119971⟩, ⟨0x1D51E, 0x1D537, 1, -119997⟩,
    ⟨0x1D538, 0x1D539, 1, -120023⟩, ⟨0x1D53B, 0x1D53E, 1, -120023⟩,
    ⟨0x1D540, 0x1D544, 1, -120023⟩, ⟨0x1D546, 0x1D546, 1, -120023⟩,
    ⟨0x1D54A, 0x1D550, 1, -120023⟩, ⟨0x1D552, 0x1D56B, 1, -120049⟩,
    ⟨0x1D56C, 0x1D585, 1, -120075⟩, ⟨0x1D586, 0x1D59F, 1, -120101⟩,
    ⟨0x1D5A0, 0x1D5B9, 1, -120127⟩, ⟨0x1D5BA, 0x1D5D3, 1, -120153⟩,
    ⟨0x1D5D4, 0x1D5ED, 1, -120179⟩, ⟨0x1D5EE, 0x1D607, 1, -120205⟩,
    ⟨0x1D608, 0x1D621, 1, -120231⟩, ⟨0x1D622, 0x1D63B, 1, -120257⟩,
    ⟨0x1D63C, 0x1D655, 1, -120283⟩, ⟨0x1D656, 0x1D66F, 1, -120309⟩,
    ⟨0x1D670, 0x1D689, 1, -120335⟩, ⟨0x1D68A, 0x1D6A3, 1, -120361⟩,
    ⟨0x1D6A4, 0x1D6A4, 1, -120179⟩, ⟨0x1D6A5, 0x1D6A5, 1, -119918⟩,
    ⟨0x1D6A8, 0x1D6B8, 1, -119543⟩, ⟨0x1D6B9, 0x1D6B9, 1, -119553⟩,
    ⟨0x1D6BA, 0x1D6C0, 1, -119543⟩, ⟨0x1D6C1, 0x1D6C1, 1, -111802⟩,
    ⟨0x1D6C2, 0x1D6D2, 1, -119569⟩, ⟨0x1D6D3, 0x1D6D3, 1, -119568⟩,
    ⟨0x1D6D4, 0x1D6DA, 1, -119569⟩, ⟨0x1D6DB, 0x1D6DB, 1, -111833⟩,
    ⟨0x1D6DC, 0x1D6DC, 1, -119591⟩, ⟨0x1D6DD, 0x1D6DD, 1, -119589⟩,
    ⟨0x1D6DE, 0x1D6DE, 1, -119588⟩, ⟨0x1D6DF, 0x1D6DF, 1, -119577⟩,
    ⟨0x1D6E0, 0x1D6E0, 1, -119583⟩, ⟨0x1D6E1, 0x1D6E1, 1, -119585⟩,
    ⟨0x1D6E2, 0x1D6F2, 1, -119601⟩, ⟨0x1D6F3, 0x1D6F3, 1, -119611⟩,
    ⟨0x1D6F4, 0x1D6FA, 1, -119601⟩, ⟨0x1D6FB, 0x1D6FB, 1, -111860⟩,
    ⟨0x1D6FC, 0x1D70C, 1, -119627⟩, ⟨0x1D70D, 0x1D70D, 1, -119626⟩,
    ⟨0x1D70E, 0x1D714, 1, -119627⟩, ⟨0x1D715, 0x1D715, 1, -111891⟩,
    ⟨0x1D716, 0x1D716, 1, -119649⟩, ⟨0x1D717, 0x1D717, 1, -119647⟩,
    ⟨0x1D718, 0x1D718, 1, -119646⟩, ⟨0x1D719, 0x1D719, 1, -119635⟩,
    ⟨0x1D71A, 0x1D71A, 1, -119641⟩, ⟨0x1D71B, 0x1D71B, 1, -119643⟩,
    ⟨0x1D71C, 0x1D72C, 1, -119659⟩, ⟨0x1D72D, 0x1D72D, 1, -119669⟩,
    ⟨0x1D72E, 0x1D734, 1, -119659⟩, ⟨0x1D735, 0x1D735, 1, -111918⟩,
    ⟨0x1D736, 0x1D746, 1, -119685⟩, ⟨0x1D747, 0x1D747, 1, -119684⟩,
    ⟨0x1D748, 0x1D74E, 1, -119685⟩, ⟨0x1D74F, 0x1D74F, 1, -111949⟩,
    ⟨0x1D750, 0x1D750, 1, -119707⟩, ⟨0x1D751, 0x1D751, 1, -119705⟩,
    ⟨0x1D752, 0x1D752, 1, -119704⟩, ⟨0x1D753, 0x1D753, 1, -119693⟩,
    ⟨0x1D754, 0x1D754, 1, -119699⟩, ⟨0x1D755, 0x1D755, 1, -119701⟩,
    ⟨0x1D756, 0x1D766, 1, -119717⟩, ⟨0x1D767, 0x1D767, 1, -119727⟩,
    ⟨0x1D768, 0x1D76E, 1, -119717⟩, ⟨0x1D76F, 0x1D76F, 1, -111976⟩,
    ⟨0x1D770, 0x1D780, 1, -119743⟩, ⟨0x1D781, 0x1D781, 1, -119742⟩,
    ⟨0x1D782, 0x1D788, 1, -119743⟩, ⟨0x1D789, 0x1D789, 1, -112007⟩,
    ⟨0x1D78A, 0x1D78A, 1, -119765⟩, ⟨0x1D78B, 0x1D78B, 1, -119763⟩,
    ⟨0x1D78C, 0x1D78C, 1, -119762⟩, ⟨0x1D78D, 0x1D78D, 1, -119751⟩,
    ⟨0x1D78E, 0x1D78E, 1, -119757⟩, ⟨0x1D78F, 0x1D78F, 1, -119759⟩,
    ⟨0x1D790, 0x1D7A0, 1, -119775⟩, ⟨0x1D7A1, 0x1D7A1, 1, -119785⟩,
    ⟨0x1D7A2, 0x1D7A8, 1, -119775⟩, ⟨0x1D7A9, 0x1D7A9, 1, -112034⟩,
    ⟨0x1D7AA, 0x1D7BA, 1, -119801⟩, ⟨0x1D7BB, 0x1D7BB, 1, -119800⟩,
    ⟨0x1D7BC, 0x1D7C2, 1, -119801⟩, ⟨0x1D7C3, 0x1D7C3, 1, -112065⟩,
    ⟨0x1D7C4, 0x1D7C4, 1, -119823⟩, ⟨0x1D7C5, 0x1D7C5, 1, -119821⟩,
    ⟨0x1D7C6, 0x1D7C6, 1, -119820⟩, ⟨0x1D7C7, 0x1D7C7, 1, -119809⟩,
    ⟨0x1D7C8, 0x1D7C8, 1, -119815⟩, ⟨0x1D7C9, 0x1D7C9, 1, -119817⟩,
    ⟨0x1D7CA, 0x1D7CA, 1, -119789⟩, ⟨0x1D7CB, 0x1D7CB, 1, -119790⟩,
    ⟨0x1D7CE, 0x1D7D7, 1, -120734⟩, ⟨0x1D7D8, 0x1D7E1, 1, -120744⟩,
    ⟨0x1D7E2, 0x1D7EB, 1, -120754⟩, ⟨0x1D7EC, 0x1D7F5, 1, -120764⟩,
    ⟨0x1D7F6, 0x1D7FF, 1, -120774⟩, ⟨0x1E900, 0x1E921, 1, 34⟩]

/-- Characters that are left out. -/
def ignored : List (Nat × Nat) :=
  [(0xAD, 0xAD), (0x34F, 0x34F), (0x115F, 0x1160), (0x17B4, 0x17B5), (0x180B, 0x180F),
    (0x200B, 0x200B), (0x2060, 0x2064), (0x206A, 0x206F), (0x3164, 0x3164), (0xFE00, 0xFE0F),
    (0xFEFF, 0xFEFF), (0xFFA0, 0xFFA0), (0x1BCA0, 0x1BCA3), (0x1D173, 0x1D17A),
    (0xE0100, 0xE01EF)]

/-- Visible characters that may not stand in a name. -/
def refused : List (Nat × Nat) :=
  [(0x2024, 0x2026), (0x2488, 0x249B), (0x2FF0, 0x2FFF), (0x31EF, 0x31EF), (0x33C2, 0x33C2),
    (0x33C7, 0x33C7), (0x33D8, 0x33D8), (0xFE12, 0xFE12), (0xFE19, 0xFE19), (0xFE30, 0xFE30),
    (0xFE52, 0xFE52), (0xFFFC, 0xFFFD), (0x1F100, 0x1F100), (0xE0020, 0xE007F)]

end NameTable
end Address
end SyncWatch
