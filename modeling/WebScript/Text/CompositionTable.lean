/-!
# Canonical compositions

The characters that a base and a mark behind it compose to, as data. What is excluded from
composition is not among them, nor are the syllables of Hangul, which follow a rule.
-/

namespace WebScript.Text

/-- Bases that compose with one mark, each with the character that is composed. -/
structure CompositionRow where
  mark : Nat
  bases : String
  composed : String

/-- Every composition, by mark. -/
def compositionRows : List CompositionRow :=
  [⟨0x300, "AEINOUWYaeinouwy\u00a8ÂÊÔÜâêôüĂăĒēŌōƠơƯưΑΕΗΙΟΥΩαεηιουωϊϋЕИеиἀἁἈἉἐἑἘἙἠἡἨἩἰἱἸἹὀὁὈὉὐ",
    "ÀÈÌǸÒÙẀỲàèìǹòùẁỳ\u1fedẦỀỒǛầềồǜẰằḔḕṐṑỜờỪừᾺῈῊῚῸῪῺὰὲὴὶὸὺὼῒῢЀЍѐѝἂἃἊἋἒἓἚἛἢἣἪἫἲἳἺἻὂὃὊὋὒ"⟩,
   ⟨0x300, "ὑὙὠὡὨὩ\u1fbf\u1ffe",
    "ὓὛὢὣὪὫ\u1fcd\u1fdd"⟩,
   ⟨0x301, "ACEGIKLMNOPRSUWYZacegiklmnoprsuwyz\u00a8ÂÅÆÇÊÏÔÕØÜâåæçêïôõøüĂăĒēŌōŨũƠơƯưΑΕΗΙΟΥΩαε",
    "ÁĆÉǴÍḰĹḾŃÓṔŔŚÚẂÝŹáćéǵíḱĺḿńóṕŕśúẃýź\u0385ẤǺǼḈẾḮỐṌǾǗấǻǽḉếḯốṍǿǘẮắḖḗṒṓṸṹỚớỨứΆΈΉΊΌΎΏάέ"⟩,
   ⟨0x301, "ηιουωϊϋϒГКгкἀἁἈἉἐἑἘἙἠἡἨἩἰἱἸἹὀὁὈὉὐὑὙὠὡὨὩ\u1fbf\u1ffe",
    "ήίόύώΐΰϓЃЌѓќἄἅἌἍἔἕἜἝἤἥἬἭἴἵἼἽὄὅὌὍὔὕὝὤὥὬὭ\u1fce\u1fde"⟩,
   ⟨0x302, "ACEGHIJOSUWYZaceghijosuwyzẠạẸẹỌọ",
    "ÂĈÊĜĤÎĴÔŜÛŴŶẐâĉêĝĥîĵôŝûŵŷẑẬậỆệỘộ"⟩,
   ⟨0x303, "AEINOUVYaeinouvyÂÊÔâêôĂăƠơƯư",
    "ÃẼĨÑÕŨṼỸãẽĩñõũṽỹẪỄỖẫễỗẴẵỠỡỮữ"⟩,
   ⟨0x304, "AEGIOUYaegiouyÄÆÕÖÜäæõöüǪǫȦȧȮȯΑΙΥαιυИУиуḶḷṚṛ",
    "ĀĒḠĪŌŪȲāēḡīōūȳǞǢȬȪǕǟǣȭȫǖǬǭǠǡȰȱᾹῙῩᾱῑῡӢӮӣӯḸḹṜṝ"⟩,
   ⟨0x306, "AEGIOUaegiouȨȩΑΙΥαιυАЕЖИУаежиуẠạ",
    "ĂĔĞĬŎŬăĕğĭŏŭḜḝᾸῘῨᾰῐῠӐӖӁЙЎӑӗӂйўẶặ"⟩,
   ⟨0x307, "ABCDEFGHIMNOPRSTWXYZabcdefghmnoprstwxyzŚśŠšſṢṣ𐗒𐗚",
    "ȦḂĊḊĖḞĠḢİṀṄȮṖṘṠṪẆẊẎŻȧḃċḋėḟġḣṁṅȯṗṙṡṫẇẋẏżṤṥṦṧẛṨṩ𐗉𐗤"⟩,
   ⟨0x308, "AEHIOUWXYaehiotuwxyÕõŪūΙΥιυϒІАЕЖЗИОУЧЫЭаежзиоучыэіӘәӨө",
    "ÄËḦÏÖÜẄẌŸäëḧïöẗüẅẍÿṎṏṺṻΪΫϊϋϔЇӒЁӜӞӤӦӰӴӸӬӓёӝӟӥӧӱӵӹӭїӚӛӪӫ"⟩,
   ⟨0x309, "AEIOUYaeiouyÂÊÔâêôĂăƠơƯư",
    "ẢẺỈỎỦỶảẻỉỏủỷẨỂỔẩểổẲẳỞởỬử"⟩,
   ⟨0x30a, "AUauwy",
    "ÅŮåůẘẙ"⟩,
   ⟨0x30b, "OUouУу",
    "ŐŰőűӲӳ"⟩,
   ⟨0x30c, "ACDEGHIKLNORSTUZacdeghijklnorstuzÜüƷʒ",
    "ǍČĎĚǦȞǏǨĽŇǑŘŠŤǓŽǎčďěǧȟǐǰǩľňǒřšťǔžǙǚǮǯ"⟩,
   ⟨0x30f, "AEIORUaeioruѴѵ",
    "ȀȄȈȌȐȔȁȅȉȍȑȕѶѷ"⟩,
   ⟨0x311, "AEIORUaeioru",
    "ȂȆȊȎȒȖȃȇȋȏȓȗ"⟩,
   ⟨0x313, "ΑΕΗΙΟΩαεηιορυω",
    "ἈἘἨἸὈὨἀἐἠἰὀῤὐὠ"⟩,
   ⟨0x314, "ΑΕΗΙΟΡΥΩαεηιορυω",
    "ἉἙἩἹὉῬὙὩἁἑἡἱὁῥὑὡ"⟩,
   ⟨0x31b, "OUou",
    "ƠƯơư"⟩,
   ⟨0x323, "ABDEHIKLMNORSTUVWYZabdehiklmnorstuvwyzƠơƯư",
    "ẠḄḌẸḤỊḲḶṂṆỌṚṢṬỤṾẈỴẒạḅḍẹḥịḳḷṃṇọṛṣṭụṿẉỵẓỢợỰự"⟩,
   ⟨0x324, "Uu",
    "Ṳṳ"⟩,
   ⟨0x325, "Aa",
    "Ḁḁ"⟩,
   ⟨0x326, "STst",
    "ȘȚșț"⟩,
   ⟨0x327, "CDEGHKLNRSTcdeghklnrst",
    "ÇḐȨĢḨĶĻŅŖŞŢçḑȩģḩķļņŗşţ"⟩,
   ⟨0x328, "AEIOUaeiou",
    "ĄĘĮǪŲąęįǫų"⟩,
   ⟨0x32d, "DELNTUdelntu",
    "ḒḘḼṊṰṶḓḙḽṋṱṷ"⟩,
   ⟨0x32e, "Hh",
    "Ḫḫ"⟩,
   ⟨0x330, "EIUeiu",
    "ḚḬṴḛḭṵ"⟩,
   ⟨0x331, "BDKLNRTZbdhklnrtz",
    "ḆḎḴḺṈṞṮẔḇḏẖḵḻṉṟṯẕ"⟩,
   ⟨0x338, "<=>\u2190\u2192\u2194\u21d0\u21d2\u21d4\u2203\u2208\u220b\u2223\u2225",
    "\u226e\u2260\u226f\u219a\u219b\u21ae\u21cd\u21cf\u21ce\u2204\u2209\u220c\u2224\u2226"⟩,
   ⟨0x338, "\u223c\u2243\u2245\u2248\u224d\u2261\u2264\u2265\u2272\u2273\u2276\u2277\u227a\u227b",
    "\u2241\u2244\u2247\u2249\u226d\u2262\u2270\u2271\u2274\u2275\u2278\u2279\u2280\u2281"⟩,
   ⟨0x338, "\u227c\u227d\u2282\u2283\u2286\u2287\u2291\u2292\u22a2\u22a8\u22a9\u22ab\u22b2\u22b3",
    "\u22e0\u22e1\u2284\u2285\u2288\u2289\u22e2\u22e3\u22ac\u22ad\u22ae\u22af\u22ea\u22eb"⟩,
   ⟨0x338, "\u22b4\u22b5",
    "\u22ec\u22ed"⟩,
   ⟨0x342, "\u00a8αηιυωϊϋἀἁἈἉἠἡἨἩἰἱἸἹὐὑὙὠὡὨὩ\u1fbf\u1ffe",
    "\u1fc1ᾶῆῖῦῶῗῧἆἇἎἏἦἧἮἯἶἷἾἿὖὗὟὦὧὮὯ\u1fcf\u1fdf"⟩,
   ⟨0x345, "ΑΗΩάήαηωώἀἁἂἃἄἅἆἇἈἉἊἋἌἍἎἏἠἡἢἣἤἥἦἧἨἩἪἫἬἭἮἯὠὡὢὣὤὥὦὧὨὩὪὫὬὭὮὯὰὴὼᾶῆῶ",
    "ᾼῌῼᾴῄᾳῃῳῴᾀᾁᾂᾃᾄᾅᾆᾇᾈᾉᾊᾋᾌᾍᾎᾏᾐᾑᾒᾓᾔᾕᾖᾗᾘᾙᾚᾛᾜᾝᾞᾟᾠᾡᾢᾣᾤᾥᾦᾧᾨᾩᾪᾫᾬᾭᾮᾯᾲῂῲᾷῇῷ"⟩,
   ⟨0x653, "\u0627",
    "\u0622"⟩,
   ⟨0x654, "\u0627\u0648\u064a\u06c1\u06d2\u06d5",
    "\u0623\u0624\u0626\u06c2\u06d3\u06c0"⟩,
   ⟨0x655, "\u0627",
    "\u0625"⟩,
   ⟨0x93c, "नरळ",
    "ऩऱऴ"⟩,
   ⟨0x9be, "\u09c7",
    "\u09cb"⟩,
   ⟨0x9d7, "\u09c7",
    "\u09cc"⟩,
   ⟨0xb3e, "\u0b47",
    "\u0b4b"⟩,
   ⟨0xb56, "\u0b47",
    "\u0b48"⟩,
   ⟨0xb57, "\u0b47",
    "\u0b4c"⟩,
   ⟨0xbbe, "\u0bc6\u0bc7",
    "\u0bca\u0bcb"⟩,
   ⟨0xbd7, "ஒ\u0bc6",
    "ஔ\u0bcc"⟩,
   ⟨0xc56, "\u0c46",
    "\u0c48"⟩,
   ⟨0xcc2, "\u0cc6",
    "\u0cca"⟩,
   ⟨0xcd5, "\u0cbf\u0cc6\u0cca",
    "\u0cc0\u0cc7\u0ccb"⟩,
   ⟨0xcd6, "\u0cc6",
    "\u0cc8"⟩,
   ⟨0xd3e, "\u0d46\u0d47",
    "\u0d4a\u0d4b"⟩,
   ⟨0xd57, "\u0d46",
    "\u0d4c"⟩,
   ⟨0xdca, "\u0dd9\u0ddc",
    "\u0dda\u0ddd"⟩,
   ⟨0xdcf, "\u0dd9",
    "\u0ddc"⟩,
   ⟨0xddf, "\u0dd9",
    "\u0dde"⟩,
   ⟨0x102e, "ဥ",
    "ဦ"⟩,
   ⟨0x1b35, "ᬅᬇᬉᬋᬍᬑ\u1b3a\u1b3c\u1b3e\u1b3f\u1b42",
    "ᬆᬈᬊᬌᬎᬒ\u1b3b\u1b3d\u1b40\u1b41\u1b43"⟩,
   ⟨0x3099, "うかきくけこさしすせそたちつてとはひふへほゝウカキクケコサシスセソタチツテトハヒフヘホワヰヱヲヽ",
    "ゔがぎぐげござじずぜぞだぢづでどばびぶべぼゞヴガギグゲゴザジズゼゾダヂヅデドバビブベボヷヸヹヺヾ"⟩,
   ⟨0x309a, "はひふへほハヒフヘホ",
    "ぱぴぷぺぽパピプペポ"⟩,
   ⟨0x110ba, "𑂙𑂛𑂥",
    "𑂚𑂜𑂫"⟩,
   ⟨0x11127, "𑄱𑄲",
    "𑄮𑄯"⟩,
   ⟨0x1133e, "𑍇",
    "𑍋"⟩,
   ⟨0x11357, "𑍇",
    "𑍌"⟩,
   ⟨0x113b8, "𑏂",
    "𑏇"⟩,
   ⟨0x113bb, "𑎄",
    "𑎅"⟩,
   ⟨0x113c2, "𑎎",
    "𑎎𑏅"⟩,
   ⟨0x113c9, "𑎂𑎐𑏂",
    "𑎃𑎑𑏈"⟩,
   ⟨0x114b0, "𑒹",
    "𑒼"⟩,
   ⟨0x114ba, "𑒹",
    "𑒻"⟩,
   ⟨0x114bd, "𑒹",
    "𑒾"⟩,
   ⟨0x115af, "𑖸𑖹",
    "𑖺𑖻"⟩,
   ⟨0x11930, "𑤵",
    "𑤸"⟩,
   ⟨0x1611e, "𖄞",
    "𖄡"⟩,
   ⟨0x1611f, "𖄡𖄡𖄩𖄩",
    "𖄣𖄦𖄧𖄤"⟩,
   ⟨0x16120, "𖄡𖄞",
    "𖄥𖄨"⟩,
   ⟨0x16129, "𖄞",
    "𖄢"⟩,
   ⟨0x16d67, "𖵩𖵩",
    "𖵪𖵧𖵪"⟩]

end WebScript.Text
