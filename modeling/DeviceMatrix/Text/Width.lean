import DeviceMatrix.Unicode.Columns
import DeviceMatrix.Unicode.Emoji

/-! How many terminal columns a text takes. The text is read from its end, because what
follows a character can change how it shows: a selector, a joiner or a modifier makes one
picture of several characters, and some letters merge with the next. -/
namespace DeviceMatrix.Text

open Unicode

/-- What stands to the right, as far as it matters. -/
inductive Following where
  | plain
  | lineFeed
  | picture
  | joined
  | joinedKeypad
  | modifier
  | flagLetters (several : Bool)
  /-- The last flag letter in front of a joined picture. -/
  | joinedFlagLetter
  /-- More flag letters in front of a joined picture; they pair up from the right. -/
  | joinedFlagLetters (paired : Bool)
  /-- The end of a flag's tags in front of a joined picture, and so many tag letters. -/
  | tagLetters (count : Nat)
  | tagDigits (count : Nat)
  /-- An Arabic letter that merges with a letter lam before it. -/
  | alef
  | lamed (joiner : Bool)
  | khmerLetter
  | bugineseYa (joiner : Bool)
  | bugineseSignYa
  | tifinaghLetter (joiner : Bool)
  | tifinaghJoined
  | lisuTone
  | turkicI (joiner : Bool)
  | kiratSignE
  | kiratSignAi
  deriving DecidableEq, Repr

namespace Following

/-- Whether a selector, a joiner or another ignorable mark may stand between a letter and
this one. -/
def isMerging : Following → Bool
  | lamed _ | khmerLetter | bugineseYa _ | bugineseSignYa | tifinaghLetter _ | tifinaghJoined |
    lisuTone | turkicI _ => true
  | _ => false

/-- Whether a selector in front leaves this visible to what stands further left. -/
def outlastsSelector (following : Following) : Bool :=
  following.isMerging || following = alef

def withJoiner : Following → Following
  | lamed _ => lamed true
  | bugineseYa _ => bugineseYa true
  | tifinaghLetter _ => tifinaghLetter true
  | turkicI _ => turkicI true
  | other => other

def isJoined : Following → Bool
  | joined | joinedKeypad => true
  | _ => false

def isJoinable : Following → Bool
  | picture | modifier | flagLetters true | joinedFlagLetters _ => true
  | _ => false

end Following

/-- What stands to the right of a character: selectors, and what they stand in front of. -/
structure Context where
  following : Following := .plain
  asPicture : Bool := false
  asText : Bool := false
  /-- A selector asks for the full-width form of a quotation mark. -/
  asWide : Bool := false
  deriving DecidableEq, Repr

instance : Coe Following Context := ⟨fun following => { following }⟩

def inRange (c : Char) (low high : Nat) : Bool := low ≤ c.toNat && c.toNat ≤ high

def isFlagLetter (c : Char) : Bool := inRange c 0x1f1e6 0x1f1ff
def isSkinTone (c : Char) : Bool := inRange c 0x1f3fb 0x1f3ff
def isTagLetter (c : Char) : Bool := inRange c 0xe0061 0xe007a
def isTagDigit (c : Char) : Bool := inRange c 0xe0030 0xe0039
def isTifinaghLetter (c : Char) : Bool := inRange c 0x2d31 0x2d65 || c == '\u2d6f'

def isLam (c : Char) : Bool :=
  c == '\u0644' || inRange c 0x6b5 0x6b8 || c == '\u076a' || c == '\u08a6' || c == '\u08c7'

def isAlef (c : Char) : Bool :=
  c == '\u0622' || c == '\u0623' || c == '\u0625' || c == '\u0627' || inRange c 0x671 0x673 ||
    c == '\u0675' || c == '\u0773' || c == '\u0774' || inRange c 0x870 0x882

/-- Khmer letters with a form below the line. -/
def hasSubscript (c : Char) : Bool :=
  inRange c 0x1780 0x17a2 && !(c == '\u1783' || c == '\u1788' || c == '\u178d' ||
    c == '\u1794' || inRange c 0x1799 0x179a || inRange c 0x179e 0x179f || c == '\u17a1') ||
    c == '\u17a7' || inRange c 0x17ab 0x17ac || c == '\u17af'

def canBePicture (c : Char) : Bool :=
  pictographRanges.contains c || textableRanges.contains c || c.toNat = 0x1f21a ||
    c.toNat = 0x1f22f

def isQuotationMark (c : Char) : Bool := inRange c 0x2018 0x2019 || inRange c 0x201c 0x201d

def isArabicTransparent (c : Char) : Bool := columns c == 0 && !nonJoiningRanges.contains c

def isSeenThrough (c : Char) : Bool :=
  c == '\u034f' || inRange c 0x17b4 0x17b5 || inRange c 0x180b 0x180d || c == '\u180f' ||
    inRange c 0xfe00 0xfe0f || inRange c 0xe0100 0xe01ef

def ownContext (c : Char) : Context :=
  if c == '\n' then Following.lineFeed
  else if c.toNat ≤ 0xa0 then {}
  else if c == '\ufe01' then { asWide := true }
  else if c == '\ufe0e' then { asText := true }
  else if c == '\ufe0f' then { asPicture := true }
  else if isSkinTone c then Following.modifier
  else if isFlagLetter c then Following.flagLetters false
  else if pictureRanges.contains c then Following.picture
  else if isAlef c then Following.alef
  else if c == '\u05dc' then Following.lamed false
  else if hasSubscript c then Following.khmerLetter
  else if c == '\u1a10' then Following.bugineseYa false
  else if isTifinaghLetter c then Following.tifinaghLetter false
  else if inRange c 0xa4fc 0xa4fd then Following.lisuTone
  else if c.toNat = 0x10c03 then Following.turkicI false
  else if c.toNat = 0x16d67 then Following.kiratSignE
  else if c.toNat = 0x16d68 then Following.kiratSignAi
  else {}

def alone (c : Char) : Int × Context := (columns c, ownContext c)

/-- What a character in front of a joined picture adds, if it belongs to the sequence. -/
def beforeJoined? (c : Char) : Option (Int × Following) :=
  if c == '\u20e3' then some (0, .joinedKeypad)
  else if isFlagLetter c then some (1, .joinedFlagLetter)
  else if isSkinTone c then some (0, .modifier)
  else if c.toNat = 0xe007f then some (0, .tagLetters 0)
  else if pictureRanges.contains c then some (0, .picture)
  else none

/-- What a character in front of something adds, if the two belong together. The tags of a
flag spell a region in letters or in three digits, and a subdivision in letters. -/
def merged? (c : Char) (following : Following) : Option (Int × Following) :=
  match following with
  | .alef =>
    if isLam c then some (0, .plain)
    else if isArabicTransparent c then some (0, .alef)
    else none
  | .lamed true => if c == '\u05d0' then some (0, .plain) else none
  | .khmerLetter => if c == '\u17d2' then some (-1, .plain) else none
  | .bugineseYa true => if c == '\u1a17' then some (0, .bugineseSignYa) else none
  | .bugineseSignYa => if c == '\u1a15' then some (0, .plain) else none
  | .tifinaghLetter joiner =>
    if c == '\u2d7f' then some (1, .tifinaghJoined)
    else if joiner && isTifinaghLetter c then some (0, .plain)
    else none
  | .tifinaghJoined => if isTifinaghLetter c then some (-1, .plain) else none
  | .lisuTone => if inRange c 0xa4f8 0xa4fb then some (0, .plain) else none
  | .turkicI true => if c.toNat = 0x10c32 then some (0, .plain) else none
  | .kiratSignE =>
    if c.toNat = 0x16d63 ∨ c.toNat = 0x16d69 then some (0, .plain)
    else if c.toNat = 0x16d67 then some (0, .kiratSignAi)
    else if c.toNat = 0x16d68 then some (1, .kiratSignE)
    else none
  | .kiratSignAi => if c.toNat = 0x16d63 then some (0, .plain) else none
  | .modifier => if modifiableRanges.contains c then some (0, .picture) else none
  | .flagLetters _ => if isFlagLetter c then some (1, .flagLetters true) else none
  | .joined => beforeJoined? c
  | .joinedFlagLetter => if isFlagLetter c then some (-1, .joinedFlagLetters true) else none
  | .joinedFlagLetters paired =>
    if isFlagLetter c then some (if paired then 3 else -1, .joinedFlagLetters (!paired))
    else none
  | .tagLetters count =>
    if isTagLetter c && count < 6 then some (0, .tagLetters (count + 1))
    else if isTagDigit c && count < 5 then some (0, .tagDigits 1)
    else if c.toNat = 0x1f3f4 && 3 ≤ count then some (0, .picture)
    else none
  | .tagDigits count =>
    if isTagDigit c && count < 3 then some (0, .tagDigits (count + 1))
    else if c.toNat = 0x1f3f4 && count = 3 then some (0, .picture)
    else none
  | _ => none

namespace Context

/-- The context in front of a selector that asks for a picture. A sequence stays open for the
picture. -/
def selectPicture (context : Context) : Context :=
  if context.following.outlastsSelector || context.following.isJoined then
    { context with asPicture := true }
  else { asPicture := true }

def selectText (context : Context) : Context :=
  if context.following.outlastsSelector then { context with asText := true }
  else { asText := true }

def selectWide (context : Context) : Context :=
  if context.following.outlastsSelector then { context with asWide := true }
  else { asWide := true }

def dropPicture (context : Context) : Context :=
  if !context.asPicture then context
  else if context.following.outlastsSelector then { context with asPicture := false }
  else {}

end Context

/-- What a character past the Latin blank adds in front of a context that does not ask for a
picture. -/
def addToOpen (c : Char) (context : Context) : Int × Context :=
  if context = {} then alone c
  else if c == '\ufe0f' then (0, context.selectPicture)
  else if c == '\ufe0e' then (0, context.selectText)
  else if c == '\ufe01' then (0, context.selectWide)
  else if context.asText && textableRanges.contains c then (1, {})
  else if context.asWide && isQuotationMark c then (2, {})
  else
    let following := context.following
    if c == '\u200d' && following.isMerging then (0, following.withJoiner)
    else if isSeenThrough c && following.isMerging then (0, following)
    else if c == '\u200d' && following.isJoinable then (0, Following.joined)
    else match merged? c following with
      | some (added, following) => (added, following)
      | none => alone c

/-- What a character adds to the columns of the text behind it. -/
def addColumns (c : Char) (context : Context) : Int × Context :=
  if context.asPicture && canBePicture c then
    (if context.following.isJoined then 0 else 2, Following.picture)
  else
    let context := context.dropPicture
    if c.toNat ≤ 0xa0 then
      if c == '\r' && context.following = .lineFeed then (0, {}) else alone c
    else addToOpen c context

def plainWidth (s : List Char) : Nat :=
  (s.foldr (fun c (sum, context) =>
    let (added, context) := addColumns c context
    (sum + added, context)) ((0 : Int), ({} : Context))).1.toNat

end DeviceMatrix.Text
