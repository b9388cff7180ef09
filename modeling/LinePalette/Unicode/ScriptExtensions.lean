import LinePalette.Unicode.CharSet

/-!
# Script extensions

Some characters are used with several scripts.  Most of them are common or
inherited as far as their own script goes; this table says for each script which
further characters it uses, and what remains common or inherited.
-/

namespace LinePalette
namespace Unicode

/-- The characters a script uses beyond its own, under all of its names. -/
def scriptExtensions : List Table :=
  [
    ⟨["adlm", "adlam"],
      "61F 640"⟩,
    ⟨["arab", "arabic"],
      "60C 61B 61F 640 64B-655 670 FD3E-FD3F 102E0-102FB"⟩,
    ⟨["beng", "bengali"],
      "951-952 964-965 1CD0 1CD2 1CD5-1CD6 1CD8 1CE1 1CEA 1CED 1CF2 1CF5-1CF7 A8F1"⟩,
    ⟨["bopo", "bopomofo"],
      "3001-3003 3008-3011 3013-301F 302A-302D 3030 3037 30FB FE45-FE46 FF61-FF65"⟩,
    ⟨["bugi", "buginese"],
      "A9CF"⟩,
    ⟨["buhd", "buhid"],
      "1735-1736"⟩,
    ⟨["cakm", "chakma"],
      "9E6-9EF 1040-1049"⟩,
    ⟨["copt", "coptic", "qaac"],
      "102E0-102FB"⟩,
    ⟨["cpmn", "cyprominoan"],
      "10100-10101"⟩,
    ⟨["cprt", "cypriot"],
      "10100-10102 10107-10133 10137-1013F"⟩,
    ⟨["cyrl", "cyrillic"],
      "485-486 1DF8 2E43"⟩,
    ⟨["deva", "devanagari"],
      "951-952 964-965 1CD0-1CF6 1CF8-1CF9 20F0 A830-A839"⟩,
    ⟨["dogr", "dogra"],
      "964-96F A830-A839"⟩,
    ⟨["dupl", "duployan"],
      "1BCA0-1BCA3"⟩,
    ⟨["geor", "georgian"],
      "10FB"⟩,
    ⟨["glag", "glagolitic"],
      "484 487 2E43 A66F"⟩,
    ⟨["gong", "gunjalagondi"],
      "964-965"⟩,
    ⟨["gonm", "masaramgondi"],
      "964-965"⟩,
    ⟨["gran", "grantha"],
      "951-952 964-965 BE6-BF3 1CD0 1CD2-1CD3 1CF2-1CF4 1CF8-1CF9 20F0 1133B 11FD0-11FD1
      11FD3"⟩,
    ⟨["grek", "greek"],
      "342 345 1DC0-1DC1"⟩,
    ⟨["gujr", "gujarati"],
      "951-952 964-965 A830-A839"⟩,
    ⟨["guru", "gurmukhi"],
      "951-952 964-965 A830-A839"⟩,
    ⟨["hang", "hangul"],
      "3001-3003 3008-3011 3013-301F 3030 3037 30FB FE45-FE46 FF61-FF65"⟩,
    ⟨["hani", "han"],
      "3001-3003 3006 3008-3011 3013-301F 302A-302D 3030 3037 303C-303F 30FB 3190-319F
      31C0-31E3 3220-3247 3280-32B0 32C0-32CB 32FF 3358-3370 337B-337F 33E0-33FE
      A700-A707 FE45-FE46 FF61-FF65 1D360-1D371 1F250-1F251"⟩,
    ⟨["hano", "hanunoo"],
      "1735-1736"⟩,
    ⟨["hira", "hiragana"],
      "3001-3003 3008-3011 3013-301F 3030-3035 3037 303C-303D 3099-309C 30A0 30FB-30FC
      FE45-FE46 FF61-FF65 FF70 FF9E-FF9F"⟩,
    ⟨["java", "javanese"],
      "A9CF"⟩,
    ⟨["kali", "kayahli"],
      "A92E"⟩,
    ⟨["kana", "katakana"],
      "3001-3003 3008-3011 3013-301F 3030-3035 3037 303C-303D 3099-309C 30A0 30FB-30FC
      FE45-FE46 FF61-FF65 FF70 FF9E-FF9F"⟩,
    ⟨["khoj", "khojki"],
      "AE6-AEF A830-A839"⟩,
    ⟨["knda", "kannada"],
      "951-952 964-965 1CD0 1CD2 1CDA 1CF2 1CF4 A830-A835"⟩,
    ⟨["kthi", "kaithi"],
      "966-96F A830-A839"⟩,
    ⟨["latn", "latin"],
      "363-36F 485-486 951-952 10FB 202F 20F0 A700-A707 A92E"⟩,
    ⟨["limb", "limbu"],
      "965"⟩,
    ⟨["lina", "lineara"],
      "10107-10133"⟩,
    ⟨["linb", "linearb"],
      "10100-10102 10107-10133 10137-1013F"⟩,
    ⟨["mahj", "mahajani"],
      "964-96F A830-A839"⟩,
    ⟨["mand", "mandaic"],
      "640"⟩,
    ⟨["mani", "manichaean"],
      "640"⟩,
    ⟨["mlym", "malayalam"],
      "951-952 964-965 1CDA A830-A832"⟩,
    ⟨["modi"],
      "A830-A839"⟩,
    ⟨["mong", "mongolian"],
      "1802-1803 1805 202F"⟩,
    ⟨["mult", "multani"],
      "A66-A6F"⟩,
    ⟨["mymr", "myanmar"],
      "A92E"⟩,
    ⟨["nand", "nandinagari"],
      "964-965 CE6-CEF 1CE9 1CF2 1CFA A830-A835"⟩,
    ⟨["nkoo", "nko"],
      "60C 61B 61F FD3E-FD3F"⟩,
    ⟨["orya", "oriya"],
      "951-952 964-965 1CDA 1CF2"⟩,
    ⟨["ougr", "olduyghur"],
      "640 10AF2"⟩,
    ⟨["perm", "oldpermic"],
      "483"⟩,
    ⟨["phag", "phagspa"],
      "1802-1803 1805"⟩,
    ⟨["phlp", "psalterpahlavi"],
      "640"⟩,
    ⟨["rohg", "hanifirohingya"],
      "60C 61B 61F 640 6D4"⟩,
    ⟨["shrd", "sharada"],
      "951 1CD7 1CD9 1CDC-1CDD 1CE0"⟩,
    ⟨["sind", "khudawadi"],
      "964-965 A830-A839"⟩,
    ⟨["sinh", "sinhala"],
      "964-965"⟩,
    ⟨["sogd", "sogdian"],
      "640"⟩,
    ⟨["sylo", "sylotinagri"],
      "964-965 9E6-9EF"⟩,
    ⟨["syrc", "syriac"],
      "60C 61B-61C 61F 640 64B-655 670 1DF8 1DFA"⟩,
    ⟨["tagb", "tagbanwa"],
      "1735-1736"⟩,
    ⟨["takr", "takri"],
      "964-965 A830-A839"⟩,
    ⟨["tale", "taile"],
      "1040-1049"⟩,
    ⟨["taml", "tamil"],
      "951-952 964-965 1CDA A8F3 11301 11303 1133B-1133C"⟩,
    ⟨["telu", "telugu"],
      "951-952 964-965 1CDA 1CF2"⟩,
    ⟨["tglg", "tagalog"],
      "1735-1736"⟩,
    ⟨["thaa", "thaana"],
      "60C 61B-61C 61F 660-669 FDF2 FDFD"⟩,
    ⟨["tirh", "tirhuta"],
      "951-952 964-965 1CF2 A830-A839"⟩,
    ⟨["yezi", "yezidi"],
      "60C 61B 61F 660-669"⟩,
    ⟨["yiii", "yi"],
      "3001-3002 3008-3011 3014-301B 30FB FF61-FF65"⟩
  ]

/-- The characters that are common or inherited and named by no script's extensions. -/
def sharedScripts : List Table :=
  [
    ⟨["zinh", "inherited", "qaai"],
      "300-341 343-344 346-362 953-954 1AB0-1ACE 1DC2-1DF7 1DF9 1DFB-1DFF 200C-200D
      20D0-20EF FE00-FE0F FE20-FE2D 101FD 1CF00-1CF2D 1CF30-1CF46 1D167-1D169
      1D17B-1D182 1D185-1D18B 1D1AA-1D1AD E0100-E01EF"⟩,
    ⟨["zyyy", "common"],
      "0-40 5B-60 7B-A9 AB-B9 BB-BF D7 F7 2B9-2DF 2E5-2E9 2EC-2FF 374 37E 385 387 605 6DD
      8E2 E3F FD5-FD8 16EB-16ED 2000-200B 200E-202E 2030-2064 2066-2070 2074-207E
      2080-208E 20A0-20C0 2100-2125 2127-2129 212C-2131 2133-214D 214F-215F 2189-218B
      2190-2426 2440-244A 2460-27FF 2900-2B73 2B76-2B95 2B97-2BFF 2E00-2E42 2E44-2E5D
      2FF0-2FFB 3000 3004 3012 3020 3036 3248-325F 327F 32B1-32BF 32CC-32CF 3371-337A
      3380-33DF 33FF 4DC0-4DFF A708-A721 A788-A78A AB5B AB6A-AB6B FE10-FE19 FE30-FE44
      FE47-FE52 FE54-FE66 FE68-FE6B FEFF FF01-FF20 FF3B-FF40 FF5B-FF60 FFE0-FFE6
      FFE8-FFEE FFF9-FFFD 10190-1019C 101D0-101FC 1CF50-1CFC3 1D000-1D0F5 1D100-1D126
      1D129-1D166 1D16A-1D17A 1D183-1D184 1D18C-1D1A9 1D1AE-1D1EA 1D2C0-1D2D3
      1D2E0-1D2F3 1D300-1D356 1D372-1D378 1D400-1D454 1D456-1D49C 1D49E-1D49F 1D4A2
      1D4A5-1D4A6 1D4A9-1D4AC 1D4AE-1D4B9 1D4BB 1D4BD-1D4C3 1D4C5-1D505 1D507-1D50A
      1D50D-1D514 1D516-1D51C 1D51E-1D539 1D53B-1D53E 1D540-1D544 1D546 1D54A-1D550
      1D552-1D6A5 1D6A8-1D7CB 1D7CE-1D7FF 1EC71-1ECB4 1ED01-1ED3D 1F000-1F02B
      1F030-1F093 1F0A0-1F0AE 1F0B1-1F0BF 1F0C1-1F0CF 1F0D1-1F0F5 1F100-1F1AD
      1F1E6-1F1FF 1F201-1F202 1F210-1F23B 1F240-1F248 1F260-1F265 1F300-1F6D7
      1F6DC-1F6EC 1F6F0-1F6FC 1F700-1F776 1F77B-1F7D9 1F7E0-1F7EB 1F7F0 1F800-1F80B
      1F810-1F847 1F850-1F859 1F860-1F887 1F890-1F8AD 1F8B0-1F8B1 1F900-1FA53
      1FA60-1FA6D 1FA70-1FA7C 1FA80-1FA88 1FA90-1FABD 1FABF-1FAC5 1FACE-1FADB
      1FAE0-1FAE8 1FAF0-1FAF8 1FB00-1FB92 1FB94-1FBCA 1FBF0-1FBF9 E0001 E0020-E007F"⟩
  ]

end Unicode
end LinePalette
