import RestClient.Text.Mark

/-!
# Composed texts

A letter with marks can be written as the letter and its marks or as one character for both. The
composed form (`Text.composed`) uses one character wherever there is one: the characters are taken
apart, marks on one letter are brought into the order of their classes, and what belongs together
is put together again. The syllables of Hangul are put together by arithmetic on their numbers.

The table holds the characters that a composed text may contain. A character that stands for
another one is not in it, and stays as it is.
-/

namespace RestClient.Text

/-- The second halves of pairs that compose, with the first halves and, in the same order, what
they compose to. -/
def compositions : List (Nat × String × String) := [
  (0x300, "AEINOUWYaeinouwy¨ÂÊÔÜâêôüĂăĒēŌōƠơƯưΑ", "ÀÈÌǸÒÙẀỲàèìǹòùẁỳ῭ẦỀỒǛầềồǜẰằḔḕṐṑỜờỪừᾺ"),
  (0x300, "ΕΗΙΟΥΩαεηιουωϊϋЕИеиἀἁἈἉἐἑἘἙἠἡἨἩἰἱἸἹὀ", "ῈῊῚῸῪῺὰὲὴὶὸὺὼῒῢЀЍѐѝἂἃἊἋἒἓἚἛἢἣἪἫἲἳἺἻὂ"),
  (0x300, "ὁὈὉὐὑὙὠὡὨὩ᾿῾", "ὃὊὋὒὓὛὢὣὪὫ῍῝"),
  (0x301, "ACEGIKLMNOPRSUWYZacegiklmnoprsuwyz¨Â", "ÁĆÉǴÍḰĹḾŃÓṔŔŚÚẂÝŹáćéǵíḱĺḿńóṕŕśúẃýź΅Ấ"),
  (0x301, "ÅÆÇÊÏÔÕØÜâåæçêïôõøüĂăĒēŌōŨũƠơƯưΑΕΗΙΟ", "ǺǼḈẾḮỐṌǾǗấǻǽḉếḯốṍǿǘẮắḖḗṒṓṸṹỚớỨứΆΈΉΊΌ"),
  (0x301, "ΥΩαεηιουωϊϋϒГКгкἀἁἈἉἐἑἘἙἠἡἨἩἰἱἸἹὀὁὈὉ", "ΎΏάέήίόύώΐΰϓЃЌѓќἄἅἌἍἔἕἜἝἤἥἬἭἴἵἼἽὄὅὌὍ"),
  (0x301, "ὐὑὙὠὡὨὩ᾿῾", "ὔὕὝὤὥὬὭ῎῞"),
  (0x302, "ACEGHIJOSUWYZaceghijosuwyzẠạẸẹỌọ", "ÂĈÊĜĤÎĴÔŜÛŴŶẐâĉêĝĥîĵôŝûŵŷẑẬậỆệỘộ"),
  (0x303, "AEINOUVYaeinouvyÂÊÔâêôĂăƠơƯư", "ÃẼĨÑÕŨṼỸãẽĩñõũṽỹẪỄỖẫễỗẴẵỠỡỮữ"),
  (0x304, "AEGIOUYaegiouyÄÆÕÖÜäæõöüǪǫȦȧȮȯΑΙΥαιυ", "ĀĒḠĪŌŪȲāēḡīōūȳǞǢȬȪǕǟǣȭȫǖǬǭǠǡȰȱᾹῙῩᾱῑῡ"),
  (0x304, "ИУиуḶḷṚṛ", "ӢӮӣӯḸḹṜṝ"),
  (0x306, "AEGIOUaegiouȨȩΑΙΥαιυАЕЖИУаежиуẠạ", "ĂĔĞĬŎŬăĕğĭŏŭḜḝᾸῘῨᾰῐῠӐӖӁЙЎӑӗӂйўẶặ"),
  (0x307, "ABCDEFGHIMNOPRSTWXYZabcdefghmnoprstw", "ȦḂĊḊĖḞĠḢİṀṄȮṖṘṠṪẆẊẎŻȧḃċḋėḟġḣṁṅȯṗṙṡṫẇ"),
  (0x307, "xyzŚśŠšſṢṣ𐗒𐗚", "ẋẏżṤṥṦṧẛṨṩ𐗉𐗤"),
  (0x308, "AEHIOUWXYaehiotuwxyÕõŪūΙΥιυϒІАЕЖЗИОУ", "ÄËḦÏÖÜẄẌŸäëḧïöẗüẅẍÿṎṏṺṻΪΫϊϋϔЇӒЁӜӞӤӦӰ"),
  (0x308, "ЧЫЭаежзиоучыэіӘәӨө", "ӴӸӬӓёӝӟӥӧӱӵӹӭїӚӛӪӫ"),
  (0x309, "AEIOUYaeiouyÂÊÔâêôĂăƠơƯư", "ẢẺỈỎỦỶảẻỉỏủỷẨỂỔẩểổẲẳỞởỬử"),
  (0x30A, "AUauwy", "ÅŮåůẘẙ"),
  (0x30B, "OUouУу", "ŐŰőűӲӳ"),
  (0x30C, "ACDEGHIKLNORSTUZacdeghijklnorstuzÜüƷ", "ǍČĎĚǦȞǏǨĽŇǑŘŠŤǓŽǎčďěǧȟǐǰǩľňǒřšťǔžǙǚǮ"),
  (0x30C, "ʒ", "ǯ"),
  (0x30F, "AEIORUaeioruѴѵ", "ȀȄȈȌȐȔȁȅȉȍȑȕѶѷ"),
  (0x311, "AEIORUaeioru", "ȂȆȊȎȒȖȃȇȋȏȓȗ"),
  (0x313, "ΑΕΗΙΟΩαεηιορυω", "ἈἘἨἸὈὨἀἐἠἰὀῤὐὠ"),
  (0x314, "ΑΕΗΙΟΡΥΩαεηιορυω", "ἉἙἩἹὉῬὙὩἁἑἡἱὁῥὑὡ"),
  (0x31B, "OUou", "ƠƯơư"),
  (0x323, "ABDEHIKLMNORSTUVWYZabdehiklmnorstuvw", "ẠḄḌẸḤỊḲḶṂṆỌṚṢṬỤṾẈỴẒạḅḍẹḥịḳḷṃṇọṛṣṭụṿẉ"),
  (0x323, "yzƠơƯư", "ỵẓỢợỰự"),
  (0x324, "Uu", "Ṳṳ"),
  (0x325, "Aa", "Ḁḁ"),
  (0x326, "STst", "ȘȚșț"),
  (0x327, "CDEGHKLNRSTcdeghklnrst", "ÇḐȨĢḨĶĻŅŖŞŢçḑȩģḩķļņŗşţ"),
  (0x328, "AEIOUaeiou", "ĄĘĮǪŲąęįǫų"),
  (0x32D, "DELNTUdelntu", "ḒḘḼṊṰṶḓḙḽṋṱṷ"),
  (0x32E, "Hh", "Ḫḫ"),
  (0x330, "EIUeiu", "ḚḬṴḛḭṵ"),
  (0x331, "BDKLNRTZbdhklnrtz", "ḆḎḴḺṈṞṮẔḇḏẖḵḻṉṟṯẕ"),
  (0x338, "<=>←→↔⇐⇒⇔∃∈∋∣∥∼≃≅≈≍≡≤≥≲≳≶≷≺≻≼≽⊂⊃⊆⊇⊑⊒", "≮≠≯↚↛↮⇍⇏⇎∄∉∌∤∦≁≄≇≉≭≢≰≱≴≵≸≹⊀⊁⋠⋡⊄⊅⊈⊉⋢⋣"),
  (0x338, "⊢⊨⊩⊫⊲⊳⊴⊵", "⊬⊭⊮⊯⋪⋫⋬⋭"),
  (0x342, "¨αηιυωϊϋἀἁἈἉἠἡἨἩἰἱἸἹὐὑὙὠὡὨὩ᾿῾", "῁ᾶῆῖῦῶῗῧἆἇἎἏἦἧἮἯἶἷἾἿὖὗὟὦὧὮὯ῏῟"),
  (0x345, "ΑΗΩάήαηωώἀἁἂἃἄἅἆἇἈἉἊἋἌἍἎἏἠἡἢἣἤἥἦἧἨἩἪ", "ᾼῌῼᾴῄᾳῃῳῴᾀᾁᾂᾃᾄᾅᾆᾇᾈᾉᾊᾋᾌᾍᾎᾏᾐᾑᾒᾓᾔᾕᾖᾗᾘᾙᾚ"),
  (0x345, "ἫἬἭἮἯὠὡὢὣὤὥὦὧὨὩὪὫὬὭὮὯὰὴὼᾶῆῶ", "ᾛᾜᾝᾞᾟᾠᾡᾢᾣᾤᾥᾦᾧᾨᾩᾪᾫᾬᾭᾮᾯᾲῂῲᾷῇῷ"),
  (0x653, "ا", "آ"),
  (0x654, "اويہےە", "أؤئۂۓۀ"),
  (0x655, "ا", "إ"),
  (0x93C, "नरळ", "ऩऱऴ"),
  (0x9BE, "ে", "ো"),
  (0x9D7, "ে", "ৌ"),
  (0xB3E, "େ", "ୋ"),
  (0xB56, "େ", "ୈ"),
  (0xB57, "େ", "ୌ"),
  (0xBBE, "ெே", "ொோ"),
  (0xBD7, "ஒெ", "ஔௌ"),
  (0xC56, "ె", "ై"),
  (0xCC2, "ೆ", "ೊ"),
  (0xCD5, "ಿೆೊ", "ೀೇೋ"),
  (0xCD6, "ೆ", "ೈ"),
  (0xD3E, "െേ", "ൊോ"),
  (0xD57, "െ", "ൌ"),
  (0xDCA, "ෙො", "ේෝ"),
  (0xDCF, "ෙ", "ො"),
  (0xDDF, "ෙ", "ෞ"),
  (0x102E, "ဥ", "ဦ"),
  (0x1B35, "ᬅᬇᬉᬋᬍᬑᬺᬼᬾᬿᭂ", "ᬆᬈᬊᬌᬎᬒᬻᬽᭀᭁᭃ"),
  (0x3099, "うかきくけこさしすせそたちつてとはひふへほゝウカキクケコサシスセソタチツ", "ゔがぎぐげござじずぜぞだぢづでどばびぶべぼゞヴガギグゲゴザジズゼゾダヂヅ"),
  (0x3099, "テトハヒフヘホワヰヱヲヽ", "デドバビブベボヷヸヹヺヾ"),
  (0x309A, "はひふへほハヒフヘホ", "ぱぴぷぺぽパピプペポ"),
  (0x110BA, "𑂙𑂛𑂥", "𑂚𑂜𑂫"),
  (0x11127, "𑄱𑄲", "𑄮𑄯"),
  (0x1133E, "𑍇", "𑍋"),
  (0x11357, "𑍇", "𑍌"),
  (0x113B8, "𑏂", "𑏇"),
  (0x113BB, "𑎄", "𑎅"),
  (0x113C2, "𑎎", "𑎎𑏅"),
  (0x113C9, "𑎂𑎐𑏂", "𑎃𑎑𑏈"),
  (0x114B0, "𑒹", "𑒼"),
  (0x114BA, "𑒹", "𑒻"),
  (0x114BD, "𑒹", "𑒾"),
  (0x115AF, "𑖸𑖹", "𑖺𑖻"),
  (0x11930, "𑤵", "𑤸"),
  (0x1611E, "𖄞", "𖄡"),
  (0x1611F, "𖄡𖄡𖄩𖄩", "𖄣𖄦𖄧𖄤"),
  (0x16120, "𖄡𖄞", "𖄥𖄨"),
  (0x16129, "𖄞", "𖄢"),
  (0x16D67, "𖵩𖵩", "𖵪𖵧𖵪")]

/-- The place of a character in a text. -/
def placeIn (c : Char) (s : String) : Option Nat := s.toList.idxOf? c

/-! ## Pairs -/

/-- The number of the first syllable. -/
def firstSyllable : Nat := 0xAC00

/-- The numbers before the first leading consonant, vowel and trailing consonant. -/
def jamo : Nat × Nat × Nat := (0x1100, 0x1161, 0x11A7)

/-- A syllable of two parts or of three, if the characters are parts of one. -/
def syllable? (a b : Char) : Option Char :=
  let (l, v, t) := jamo
  let (m, n) := (a.toNat, b.toNat)
  if l ≤ m && m < l + 19 && v ≤ n && n < v + 21 then
    some (Char.ofNat (firstSyllable + ((m - l) * 21 + (n - v)) * 28))
  else if firstSyllable ≤ m && m < firstSyllable + 11172 && (m - firstSyllable) % 28 = 0 &&
      t < n && n < t + 28 then
    some (Char.ofNat (m + (n - t)))
  else none

/-- The parts of a syllable. -/
def syllableParts? (c : Char) : Option (Char × Char) :=
  let (l, v, t) := jamo
  let n := c.toNat
  if firstSyllable ≤ n && n < firstSyllable + 11172 then
    let i := n - firstSyllable
    if i % 28 = 0 then some (Char.ofNat (l + i / 588), Char.ofNat (v + i % 588 / 28))
    else some (Char.ofNat (n - i % 28), Char.ofNat (t + i % 28))
  else none

/-- **What two characters compose to**: parts of a syllable by counting, all others by the table. -/
def compose? (a b : Char) : Option Char :=
  match syllable? a b with
  | some c => some c
  | none => compositions.findSome? fun r =>
      if r.1 = b.toNat then (placeIn a r.2.1).bind (r.2.2.toList[·]?) else none

/-- **The two characters that one is composed of**, the first of which may be composed itself. -/
def decompose? (c : Char) : Option (Char × Char) :=
  match syllableParts? c with
  | some p => some p
  | none => compositions.findSome? fun r =>
      ((placeIn c r.2.2).bind (r.2.1.toList[·]?)).map (·, Char.ofNat r.1)

/-! ## Texts -/

/-- A character taken apart. No character is composed of more than `fuel` others. -/
def apart : Nat → Char → List Char
  | 0, c => [c]
  | fuel + 1, c =>
    match decompose? c with
    | some (a, b) => apart fuel a ++ [b]
    | none => [c]

/-- Puts a character in front of marks that are in order, behind those of a smaller class; what
has no class stays in front. -/
def insertMark (c : Char) : List Char → List Char
  | [] => [c]
  | d :: rest =>
    if markClass d ≠ 0 && markClass d < markClass c then d :: insertMark c rest else c :: d :: rest

/-- Marks on one character in the order of their classes. -/
def ordered (cs : List Char) : List Char := cs.foldr insertMark []

/-- Puts together what composes: `start` is the character that marks are added to, `after` what
stands behind it and does not compose with it, the last first. -/
def joined : Option Char → List Char → List Char → List Char
  | none, after, [] => after.reverse
  | some s, after, [] => s :: after.reverse
  | none, after, c :: rest =>
    if markClass c = 0 then after.reverse ++ joined (some c) [] rest
    else joined none (c :: after) rest
  | some s, after, c :: rest =>
    let reached := match after with
      | [] => true
      | d :: _ => markClass d < markClass c
    match if reached then compose? s c else none with
    | some composed => joined (some composed) after rest
    | none =>
      if markClass c = 0 then s :: after.reverse ++ joined (some c) [] rest
      else joined (some s) (c :: after) rest

/-- **A text in its composed form**: taken apart, with the marks on each character in order, and put
together again. A text in ASCII is composed. -/
def composed (cs : List Char) : List Char :=
  if cs.all fun c => c.toNat < 0x80 then cs
  else joined none [] (ordered (cs.flatMap (apart 4)))

end RestClient.Text
