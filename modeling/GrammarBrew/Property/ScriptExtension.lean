/-!
The characters that are used with scripts other than the one they belong to, by Unicode 16: the
codes of these scripts, and the characters as ascending disjoint runs of code points.
-/

set_option autoImplicit false
set_option relaxedAutoImplicit false

namespace GrammarBrew.Property

/-- The characters with scripts of their own: the codes of the scripts, and the runs. -/
def sharedRuns : List (List String × List (Nat × Nat)) := [
  (["avst", "cari", "copt", "dupl", "elba", "geor", "glag", "gong", "goth", "grek", "hani", "latn",
    "lydi", "mahj", "perm", "shaw"],
    [(0x00b7, 0x00b7)]),
  (["beng", "cyrl", "deva", "latn", "lisu", "thai", "toto"],
    [(0x02bc, 0x02bc)]),
  (["bopo", "latn"],
    [(0x02c7, 0x02c7), (0x02c9, 0x02cb), (0x02d9, 0x02d9)]),
  (["latn", "lisu"],
    [(0x02cd, 0x02cd)]),
  (["latn", "thai"],
    [(0x02d7, 0x02d7)]),
  (["cher", "copt", "cyrl", "grek", "latn", "perm", "sunu", "tale"],
    [(0x0300, 0x0300)]),
  (["cher", "cyrl", "grek", "latn", "osge", "sunu", "tale", "todr"],
    [(0x0301, 0x0301)]),
  (["cher", "cyrl", "latn", "tfng"],
    [(0x0302, 0x0302)]),
  (["glag", "latn", "sunu", "syrc", "thai"],
    [(0x0303, 0x0303)]),
  (["aghb", "cher", "copt", "cyrl", "goth", "grek", "latn", "osge", "syrc", "tfng", "todr"],
    [(0x0304, 0x0304)]),
  (["copt", "elba", "glag", "goth", "kana", "latn"],
    [(0x0305, 0x0305)]),
  (["cyrl", "grek", "latn", "perm", "tfng"],
    [(0x0306, 0x0306)]),
  (["copt", "dupl", "hebr", "latn", "perm", "syrc", "tale", "tfng", "todr"],
    [(0x0307, 0x0307)]),
  (["armn", "cyrl", "dupl", "goth", "grek", "hebr", "latn", "perm", "syrc", "tale", "tfng"],
    [(0x0308, 0x0308)]),
  (["latn", "tfng"],
    [(0x0309, 0x0309)]),
  (["dupl", "latn", "syrc"],
    [(0x030a, 0x030a)]),
  (["cher", "cyrl", "latn", "osge"],
    [(0x030b, 0x030b)]),
  (["cher", "latn", "tale"],
    [(0x030c, 0x030c)]),
  (["latn", "sunu"],
    [(0x030d, 0x030d), (0x0310, 0x0310)]),
  (["ethi", "latn"],
    [(0x030e, 0x030e)]),
  (["cyrl", "latn", "todr"],
    [(0x0311, 0x0311)]),
  (["grek", "latn", "perm", "todr"],
    [(0x0313, 0x0313)]),
  (["cher", "dupl", "kana", "latn", "syrc", "tfng"],
    [(0x0323, 0x0323)]),
  (["cher", "dupl", "latn", "syrc"],
    [(0x0324, 0x0324)]),
  (["latn", "syrc"],
    [(0x0325, 0x0325), (0x032e, 0x032e)]),
  (["latn", "sunu", "syrc"],
    [(0x032d, 0x032d)]),
  (["cher", "latn", "syrc"],
    [(0x0330, 0x0330)]),
  (["aghb", "cher", "goth", "latn", "sunu", "syrc", "thai"],
    [(0x0331, 0x0331)]),
  (["grek"],
    [(0x0342, 0x0342), (0x0345, 0x0345), (0x1dc0, 0x1dc1)]),
  (["latn", "osge"],
    [(0x0358, 0x0358)]),
  (["aghb", "latn", "todr"],
    [(0x035e, 0x035e)]),
  (["latn"],
    [(0x0363, 0x036f)]),
  (["copt", "grek"],
    [(0x0374, 0x0375)]),
  (["cyrl", "perm"],
    [(0x0483, 0x0483)]),
  (["cyrl", "glag"],
    [(0x0484, 0x0484), (0x0487, 0x0487), (0x2e43, 0x2e43), (0xa66f, 0xa66f)]),
  (["cyrl", "latn"],
    [(0x0485, 0x0486)]),
  (["armn", "geor", "glag"],
    [(0x0589, 0x0589)]),
  (["arab", "gara", "nkoo", "rohg", "syrc", "thaa", "yezi"],
    [(0x060c, 0x060c), (0x061b, 0x061b)]),
  (["arab", "syrc", "thaa"],
    [(0x061c, 0x061c)]),
  (["adlm", "arab", "gara", "nkoo", "rohg", "syrc", "thaa", "yezi"],
    [(0x061f, 0x061f)]),
  (["adlm", "arab", "mand", "mani", "ougr", "phlp", "rohg", "sogd", "syrc"],
    [(0x0640, 0x0640)]),
  (["arab", "syrc"],
    [(0x064b, 0x0655), (0x0670, 0x0670)]),
  (["arab", "thaa", "yezi"],
    [(0x0660, 0x0669)]),
  (["arab", "rohg"],
    [(0x06d4, 0x06d4)]),
  (["beng", "deva", "gran", "gujr", "guru", "knda", "latn", "mlym", "nand", "newa", "orya", "shrd",
    "taml", "telu", "tirh"],
    [(0x0951, 0x0951)]),
  (["beng", "deva", "gran", "gujr", "guru", "knda", "latn", "mlym", "newa", "orya", "taml", "telu",
    "tirh"],
    [(0x0952, 0x0952)]),
  (["beng", "deva", "dogr", "gong", "gonm", "gran", "gujr", "guru", "knda", "mahj", "mlym", "nand",
    "onao", "orya", "sind", "sinh", "sylo", "takr", "taml", "telu", "tirh"],
    [(0x0964, 0x0964)]),
  (["beng", "deva", "dogr", "gong", "gonm", "gran", "gujr", "gukh", "guru", "knda", "limb", "mahj",
    "mlym", "nand", "onao", "orya", "sind", "sinh", "sylo", "takr", "taml", "telu", "tirh"],
    [(0x0965, 0x0965)]),
  (["deva", "dogr", "kthi", "mahj"],
    [(0x0966, 0x096f)]),
  (["beng", "cakm", "sylo"],
    [(0x09e6, 0x09ef)]),
  (["guru", "mult"],
    [(0x0a66, 0x0a6f)]),
  (["gujr", "khoj"],
    [(0x0ae6, 0x0aef)]),
  (["gran", "taml"],
    [(0x0be6, 0x0bf3), (0x11301, 0x11301), (0x11303, 0x11303), (0x1133b, 0x1133c),
      (0x11fd0, 0x11fd1), (0x11fd3, 0x11fd3)]),
  (["knda", "nand", "tutg"],
    [(0x0ce6, 0x0cef)]),
  (["cakm", "mymr", "tale"],
    [(0x1040, 0x1049)]),
  (["geor", "glag", "latn"],
    [(0x10fb, 0x10fb)]),
  (["runr"],
    [(0x16eb, 0x16ed)]),
  (["buhd", "hano", "tagb", "tglg"],
    [(0x1735, 0x1736)]),
  (["mong", "phag"],
    [(0x1802, 0x1803), (0x1805, 0x1805)]),
  (["beng", "deva", "gran", "knda"],
    [(0x1cd0, 0x1cd0), (0x1cd2, 0x1cd2)]),
  (["deva"],
    [(0x1cd1, 0x1cd1), (0x1cd4, 0x1cd4), (0x1cdb, 0x1cdb), (0x1cde, 0x1cdf), (0x1ce3, 0x1ce8),
    (0x1cec, 0x1cec), (0x1cee, 0x1cf1)]),
  (["deva", "gran", "knda"],
    [(0x1cd3, 0x1cd3)]),
  (["beng", "deva", "newa", "telu", "tirh"],
    [(0x1cd5, 0x1cd5)]),
  (["beng", "deva", "telu"],
    [(0x1cd6, 0x1cd6)]),
  (["deva", "newa", "shrd"],
    [(0x1cd7, 0x1cd7)]),
  (["beng", "deva", "newa", "telu"],
    [(0x1cd8, 0x1cd8)]),
  (["deva", "shrd"],
    [(0x1cd9, 0x1cd9), (0x1cdc, 0x1cdd), (0x1ce0, 0x1ce0)]),
  (["deva", "knda", "mlym", "orya", "taml", "telu"],
    [(0x1cda, 0x1cda)]),
  (["beng", "deva"],
    [(0x1ce1, 0x1ce1), (0x1cf5, 0x1cf6)]),
  (["deva", "newa", "tirh"],
    [(0x1ce2, 0x1ce2)]),
  (["deva", "nand", "newa"],
    [(0x1ce9, 0x1ce9)]),
  (["beng", "deva", "shrd"],
    [(0x1cea, 0x1cea)]),
  (["deva", "newa"],
    [(0x1ceb, 0x1ceb)]),
  (["beng", "deva", "newa", "shrd"],
    [(0x1ced, 0x1ced)]),
  (["beng", "deva", "gran", "knda", "mlym", "nand", "orya", "sinh", "telu", "tirh", "tutg"],
    [(0x1cf2, 0x1cf2)]),
  (["deva", "gran"],
    [(0x1cf3, 0x1cf3), (0x1cf8, 0x1cf9)]),
  (["deva", "gran", "knda", "tutg"],
    [(0x1cf4, 0x1cf4)]),
  (["beng"],
    [(0x1cf7, 0x1cf7)]),
  (["nand"],
    [(0x1cfa, 0x1cfa)]),
  (["cyrl", "latn", "syrc"],
    [(0x1df8, 0x1df8)]),
  (["syrc"],
    [(0x1dfa, 0x1dfa)]),
  (["latn", "mong", "phag"],
    [(0x202f, 0x202f)]),
  (["adlm", "arab"],
    [(0x204f, 0x204f)]),
  (["cari", "geor", "glag", "hung", "lyci", "orkh"],
    [(0x205a, 0x205a)]),
  (["cari", "grek", "hung", "mero"],
    [(0x205d, 0x205d)]),
  (["deva", "gran", "latn"],
    [(0x20f0, 0x20f0)]),
  (["copt", "latn"],
    [(0x2e17, 0x2e17)]),
  (["avst", "orkh"],
    [(0x2e30, 0x2e30)]),
  (["avst", "cari", "geor", "hung", "kthi", "lydi", "samr"],
    [(0x2e31, 0x2e31)]),
  (["dupl"],
    [(0x2e3c, 0x2e3c), (0x1bca0, 0x1bca3)]),
  (["adlm", "arab", "hung"],
    [(0x2e41, 0x2e41)]),
  (["hani", "tang"],
    [(0x2ff0, 0x2fff), (0x31ef, 0x31ef)]),
  (["bopo", "hang", "hani", "hira", "kana", "mong", "yiii"],
    [(0x3001, 0x3001)]),
  (["bopo", "hang", "hani", "hira", "kana", "mong", "phag", "yiii"],
    [(0x3002, 0x3002)]),
  (["bopo", "hang", "hani", "hira", "kana"],
    [(0x3003, 0x3003), (0x3013, 0x3013), (0x301c, 0x301f), (0x3030, 0x3030), (0x3037, 0x3037),
    (0xfe45, 0xfe46)]),
  (["hani"],
    [(0x3006, 0x3006), (0x303e, 0x303f), (0x3190, 0x319f), (0x31c0, 0x31e5), (0x3220, 0x3247),
    (0x3280, 0x32b0), (0x32c0, 0x32cb), (0x32ff, 0x32ff), (0x3358, 0x3370), (0x337b, 0x337f),
    (0x33e0, 0x33fe), (0x1d360, 0x1d371), (0x1f250, 0x1f251)]),
  (["bopo", "hang", "hani", "hira", "kana", "mong", "tibt", "yiii"],
    [(0x3008, 0x3009)]),
  (["bopo", "hang", "hani", "hira", "kana", "lisu", "mong", "tibt", "yiii"],
    [(0x300a, 0x300b)]),
  (["bopo", "hang", "hani", "hira", "kana", "yiii"],
    [(0x300c, 0x3011), (0x3014, 0x301b), (0x30fb, 0x30fb), (0xff61, 0xff65)]),
  (["bopo", "hani"],
    [(0x302a, 0x302d)]),
  (["hira", "kana"],
    [(0x3031, 0x3035), (0x3099, 0x309c), (0x30a0, 0x30a0), (0x30fc, 0x30fc), (0xff70, 0xff70),
    (0xff9e, 0xff9f)]),
  (["hani", "hira", "kana"],
    [(0x303c, 0x303d)]),
  (["hani", "latn"],
    [(0xa700, 0xa707)]),
  (["deva", "dogr", "gujr", "guru", "khoj", "knda", "kthi", "mahj", "mlym", "modi", "nand", "shrd",
    "sind", "takr", "tirh", "tutg"],
    [(0xa830, 0xa832)]),
  (["deva", "dogr", "gujr", "guru", "khoj", "knda", "kthi", "mahj", "modi", "nand", "shrd", "sind",
    "takr", "tirh", "tutg"],
    [(0xa833, 0xa835)]),
  (["deva", "dogr", "gujr", "guru", "khoj", "kthi", "mahj", "modi", "sind", "takr", "tirh"],
    [(0xa836, 0xa837), (0xa839, 0xa839)]),
  (["deva", "dogr", "gujr", "guru", "khoj", "kthi", "mahj", "modi", "shrd", "sind", "takr", "tirh"],
    [(0xa838, 0xa838)]),
  (["beng", "deva", "tutg"],
    [(0xa8f1, 0xa8f1)]),
  (["deva", "taml"],
    [(0xa8f3, 0xa8f3)]),
  (["kali", "latn", "mymr"],
    [(0xa92e, 0xa92e)]),
  (["bugi", "java"],
    [(0xa9cf, 0xa9cf)]),
  (["arab", "nkoo"],
    [(0xfd3e, 0xfd3f)]),
  (["arab", "thaa"],
    [(0xfdf2, 0xfdf2), (0xfdfd, 0xfdfd)]),
  (["cpmn", "cprt", "linb"],
    [(0x10100, 0x10101)]),
  (["cprt", "linb"],
    [(0x10102, 0x10102), (0x10137, 0x1013f)]),
  (["cprt", "lina", "linb"],
    [(0x10107, 0x10133)]),
  (["arab", "copt"],
    [(0x102e0, 0x102fb)]),
  (["mani", "ougr"],
    [(0x10af2, 0x10af2)])
]

end GrammarBrew.Property
