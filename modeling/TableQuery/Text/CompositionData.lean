/-!
# Composition data

The characters that stand for a character and a mark after it.  A row gives, for one mark, the
characters before it and, in the same order, the characters that stand for both.
-/

namespace TableQuery.Text

/-- What characters become together with the mark `second`. -/
structure CompositionRow where
  second : Nat
  firsts : String
  wholes : String

/-- The compositions of all scripts but the Korean syllables, which follow a rule. -/
def compositionRows : List CompositionRow :=
  [⟨0x0300, "AEIOUaeiouÜüNnЕИеиĒēŌōWwÂâĂăÊêÔôƠơƯư",
    "ÀÈÌÒÙàèìòùǛǜǸǹЀЍѐѝḔḕṐṑẀẁẦầẰằỀềỒồỜờỪừ"⟩,
   ⟨0x0300, "YyἀἁἈἉἐἑἘἙἠἡἨἩἰἱἸἹὀὁὈὉὐὑὙὠὡὨὩαεηιουω",
    "ỲỳἂἃἊἋἒἓἚἛἢἣἪἫἲἳἺἻὂὃὊὋὒὓὛὢὣὪὫὰὲὴὶὸὺὼ"⟩,
   ⟨0x0300, "ΑΕΗ᾿ϊΙ῾ϋΥ¨ΟΩ",
    "ᾺῈῊ῍ῒῚ῝ῢῪ῭ῸῺ"⟩,
   ⟨0x0301, "AEIOUYaeiouyCcLlNnRrSsZzÜüGgÅåÆæØø¨Α",
    "ÁÉÍÓÚÝáéíóúýĆćĹĺŃńŔŕŚśŹźǗǘǴǵǺǻǼǽǾǿ΅Ά"⟩,
   ⟨0x0301, "ΕΗΙΟΥΩϊαεηιϋουωϒГКгкÇçĒēÏïKkMmÕõŌōPp",
    "ΈΉΊΌΎΏΐάέήίΰόύώϓЃЌѓќḈḉḖḗḮḯḰḱḾḿṌṍṒṓṔṕ"⟩,
   ⟨0x0301, "ŨũWwÂâĂăÊêÔôƠơƯưἀἁἈἉἐἑἘἙἠἡἨἩἰἱἸἹὀὁὈὉ",
    "ṸṹẂẃẤấẮắẾếỐốỚớỨứἄἅἌἍἔἕἜἝἤἥἬἭἴἵἼἽὄὅὌὍ"⟩,
   ⟨0x0301, "ὐὑὙὠὡὨὩ᾿῾",
    "ὔὕὝὤὥὬὭ῎῞"⟩,
   ⟨0x0302, "AEIOUaeiouCcGgHhJjSsWwYyZzẠạẸẹỌọ",
    "ÂÊÎÔÛâêîôûĈĉĜĝĤĥĴĵŜŝŴŵŶŷẐẑẬậỆệỘộ"⟩,
   ⟨0x0303, "ANOanoIiUuVvÂâĂăEeÊêÔôƠơƯưYy",
    "ÃÑÕãñõĨĩŨũṼṽẪẫẴẵẼẽỄễỖỗỠỡỮữỸỹ"⟩,
   ⟨0x0304, "AaEeIiOoUuÜüÄäȦȧÆæǪǫÖöÕõȮȯYyИиУуGgḶḷ",
    "ĀāĒēĪīŌōŪūǕǖǞǟǠǡǢǣǬǭȪȫȬȭȰȱȲȳӢӣӮӯḠḡḸḹ"⟩,
   ⟨0x0304, "ṚṛαΑιΙυΥ",
    "ṜṝᾱᾹῑῙῡῩ"⟩,
   ⟨0x0306, "AaEeGgIiOoUuУИиуЖжАаЕеȨȩẠạαΑιΙυΥ",
    "ĂăĔĕĞğĬĭŎŏŬŭЎЙйўӁӂӐӑӖӗḜḝẶặᾰᾸῐῘῠῨ"⟩,
   ⟨0x0307, "CcEeGgIZzAaOoBbDdFfHhMmNnPpRrSsŚśŠšṢ",
    "ĊċĖėĠġİŻżȦȧȮȯḂḃḊḋḞḟḢḣṀṁṄṅṖṗṘṙṠṡṤṥṦṧṨ"⟩,
   ⟨0x0307, "ṣTtWwXxYyſ𐗒𐗚",
    "ṩṪṫẆẇẊẋẎẏẛ𐗉𐗤"⟩,
   ⟨0x0308, "AEIOUaeiouyYΙΥιυϒЕІеіАаӘәЖжЗзИиОоӨөЭ",
    "ÄËÏÖÜäëïöüÿŸΪΫϊϋϔЁЇёїӒӓӚӛӜӝӞӟӤӥӦӧӪӫӬ"⟩,
   ⟨0x0308, "эУуЧчЫыHhÕõŪūWwXxt",
    "ӭӰӱӴӵӸӹḦḧṎṏṺṻẄẅẌẍẗ"⟩,
   ⟨0x0309, "AaÂâĂăEeÊêIiOoÔôƠơUuƯưYy",
    "ẢảẨẩẲẳẺẻỂểỈỉỎỏỔổỞởỦủỬửỶỷ"⟩,
   ⟨0x030A, "AaUuwy", "ÅåŮůẘẙ"⟩,
   ⟨0x030B, "OoUuУу", "ŐőŰűӲӳ"⟩,
   ⟨0x030C, "CcDdEeLlNnRrSsTtZzAaIiOoUuÜüGgKkƷʒjH",
    "ČčĎďĚěĽľŇňŘřŠšŤťŽžǍǎǏǐǑǒǓǔǙǚǦǧǨǩǮǯǰȞ"⟩,
   ⟨0x030C, "h", "ȟ"⟩,
   ⟨0x030F, "AaEeIiOoRrUuѴѵ",
    "ȀȁȄȅȈȉȌȍȐȑȔȕѶѷ"⟩,
   ⟨0x0311, "AaEeIiOoRrUu",
    "ȂȃȆȇȊȋȎȏȒȓȖȗ"⟩,
   ⟨0x0313, "αΑεΕηΗιΙοΟυωΩρ",
    "ἀἈἐἘἠἨἰἸὀὈὐὠὨῤ"⟩,
   ⟨0x0314, "αΑεΕηΗιΙοΟυΥωΩρΡ",
    "ἁἉἑἙἡἩἱἹὁὉὑὙὡὩῥῬ"⟩,
   ⟨0x031B, "OoUu", "ƠơƯư"⟩,
   ⟨0x0323, "BbDdHhKkLlMmNnRrSsTtVvWwZzAaEeIiOoƠơ",
    "ḄḅḌḍḤḥḲḳḶḷṂṃṆṇṚṛṢṣṬṭṾṿẈẉẒẓẠạẸẹỊịỌọỢợ"⟩,
   ⟨0x0323, "UuƯưYy", "ỤụỰựỴỵ"⟩,
   ⟨0x0324, "Uu", "Ṳṳ"⟩,
   ⟨0x0325, "Aa", "Ḁḁ"⟩,
   ⟨0x0326, "SsTt", "ȘșȚț"⟩,
   ⟨0x0327, "CcGgKkLlNnRrSsTtEeDdHh",
    "ÇçĢģĶķĻļŅņŖŗŞşŢţȨȩḐḑḨḩ"⟩,
   ⟨0x0328, "AaEeIiUuOo",
    "ĄąĘęĮįŲųǪǫ"⟩,
   ⟨0x032D, "DdEeLlNnTtUu",
    "ḒḓḘḙḼḽṊṋṰṱṶṷ"⟩,
   ⟨0x032E, "Hh", "Ḫḫ"⟩,
   ⟨0x0330, "EeIiUu", "ḚḛḬḭṴṵ"⟩,
   ⟨0x0331, "BbDdKkLlNnRrTtZzh",
    "ḆḇḎḏḴḵḺḻṈṉṞṟṮṯẔẕẖ"⟩,
   ⟨0x0338, "←→↔⇐⇔⇒∃∈∋∣∥∼≃≅≈=≡≍<>≤≥≲≳≶≷≺≻⊂⊃⊆⊇⊢⊨⊩⊫",
    "↚↛↮⇍⇎⇏∄∉∌∤∦≁≄≇≉≠≢≭≮≯≰≱≴≵≸≹⊀⊁⊄⊅⊈⊉⊬⊭⊮⊯"⟩,
   ⟨0x0338, "≼≽⊑⊒⊲⊳⊴⊵",
    "⋠⋡⋢⋣⋪⋫⋬⋭"⟩,
   ⟨0x0342, "ἀἁἈἉἠἡἨἩἰἱἸἹὐὑὙὠὡὨὩα¨η᾿ιϊ῾υϋω",
    "ἆἇἎἏἦἧἮἯἶἷἾἿὖὗὟὦὧὮὯᾶ῁ῆ῏ῖῗ῟ῦῧῶ"⟩,
   ⟨0x0345, "ἀἁἂἃἄἅἆἇἈἉἊἋἌἍἎἏἠἡἢἣἤἥἦἧἨἩἪἫἬἭἮἯὠὡὢὣ",
    "ᾀᾁᾂᾃᾄᾅᾆᾇᾈᾉᾊᾋᾌᾍᾎᾏᾐᾑᾒᾓᾔᾕᾖᾗᾘᾙᾚᾛᾜᾝᾞᾟᾠᾡᾢᾣ"⟩,
   ⟨0x0345, "ὤὥὦὧὨὩὪὫὬὭὮὯὰαάᾶΑὴηήῆΗὼωώῶΩ",
    "ᾤᾥᾦᾧᾨᾩᾪᾫᾬᾭᾮᾯᾲᾳᾴᾷᾼῂῃῄῇῌῲῳῴῷῼ"⟩,
   ⟨0x0653, "\u0627", "\u0622"⟩,
   ⟨0x0654, "\u0627\u0648\u064a\u06d5\u06c1\u06d2", "\u0623\u0624\u0626\u06c0\u06c2\u06d3"⟩,
   ⟨0x0655, "\u0627", "\u0625"⟩,
   ⟨0x093C, "नरळ", "ऩऱऴ"⟩,
   ⟨0x09BE, "\u09c7", "\u09cb"⟩,
   ⟨0x09D7, "\u09c7", "\u09cc"⟩,
   ⟨0x0B3E, "\u0b47", "\u0b4b"⟩,
   ⟨0x0B56, "\u0b47", "\u0b48"⟩,
   ⟨0x0B57, "\u0b47", "\u0b4c"⟩,
   ⟨0x0BBE, "\u0bc6\u0bc7", "\u0bca\u0bcb"⟩,
   ⟨0x0BD7, "ஒ\u0bc6", "ஔ\u0bcc"⟩,
   ⟨0x0C56, "\u0c46", "\u0c48"⟩,
   ⟨0x0CC2, "\u0cc6", "\u0cca"⟩,
   ⟨0x0CD5, "\u0cbf\u0cc6\u0cca", "\u0cc0\u0cc7\u0ccb"⟩,
   ⟨0x0CD6, "\u0cc6", "\u0cc8"⟩,
   ⟨0x0D3E, "\u0d46\u0d47", "\u0d4a\u0d4b"⟩,
   ⟨0x0D57, "\u0d46", "\u0d4c"⟩,
   ⟨0x0DCA, "\u0dd9\u0ddc", "\u0dda\u0ddd"⟩,
   ⟨0x0DCF, "\u0dd9", "\u0ddc"⟩,
   ⟨0x0DDF, "\u0dd9", "\u0dde"⟩,
   ⟨0x102E, "ဥ", "ဦ"⟩,
   ⟨0x1B35, "ᬅᬇᬉᬋᬍᬑ\u1b3a\u1b3c\u1b3e\u1b3f\u1b42",
    "ᬆᬈᬊᬌᬎᬒ\u1b3b\u1b3d\u1b40\u1b41\u1b43"⟩,
   ⟨0x3099, "かきくけこさしすせそたちつてとはひふへほうゝカキクケコサシスセソタチツテ",
    "がぎぐげござじずぜぞだぢづでどばびぶべぼゔゞガギグゲゴザジズゼゾダヂヅデ"⟩,
   ⟨0x3099, "トハヒフヘホウワヰヱヲヽ",
    "ドバビブベボヴヷヸヹヺヾ"⟩,
   ⟨0x309A, "はひふへほハヒフヘホ",
    "ぱぴぷぺぽパピプペポ"⟩,
   ⟨0x110BA, "𑂙𑂛𑂥", "𑂚𑂜𑂫"⟩,
   ⟨0x11127, "𑄱𑄲", "𑄮𑄯"⟩,
   ⟨0x1133E, "𑍇", "𑍋"⟩,
   ⟨0x11357, "𑍇", "𑍌"⟩,
   ⟨0x113B8, "𑏂", "𑏇"⟩,
   ⟨0x113BB, "𑎄", "𑎅"⟩,
   ⟨0x113C2, "𑎎", "𑎎𑏅"⟩,
   ⟨0x113C9, "𑎂𑎐𑏂", "𑎃𑎑𑏈"⟩,
   ⟨0x114B0, "𑒹", "𑒼"⟩,
   ⟨0x114BA, "𑒹", "𑒻"⟩,
   ⟨0x114BD, "𑒹", "𑒾"⟩,
   ⟨0x115AF, "𑖸𑖹", "𑖺𑖻"⟩,
   ⟨0x11930, "𑤵", "𑤸"⟩,
   ⟨0x1611E, "𖄞", "𖄡"⟩,
   ⟨0x1611F, "𖄢𖄡𖄢", "𖄣𖄤𖄦𖄧"⟩,
   ⟨0x16120, "𖄡𖄞", "𖄥𖄨"⟩,
   ⟨0x16129, "𖄞", "𖄢"⟩,
   ⟨0x16D67, "𖵧𖵣𖵩", "𖵨𖵩𖵪"⟩]

end TableQuery.Text
