import CallOrder.Text.Picture
import CallOrder.Text.Width

/-! How many columns a text takes on a line where all characters stand in columns of one width.
A character may melt with those after it: letters into a ligature, and letters of flags, tones and
joined pictures into one picture. So a text is measured from its end. -/
namespace CallOrder.Text

/-- Letters that may melt with a letter before them. -/
inductive Ligature where
  | hebrewLamed
  | khmerConsonant
  | bugineseYa
  | bugineseVowelYa
  | tifinaghConsonant
  /-- The sign that joins two consonants, before the second one. -/
  | tifinaghJoiner
  | lisuTone
  | turkicI
deriving DecidableEq, Repr

/-- What a text begins with, as far as that changes the width of a character before it. -/
inductive Opening where
  | plain
  /-- A letter, with or without a joiner before it. -/
  | letter (ligature : Ligature) (joined : Bool)
  | alef
  | tone
  | flagLetter
  | flagLetters
  | picture
  | joinedPicture
  /-- A key around the character before a joined picture. -/
  | joinedKey
  /-- A single letter of a flag before a joined picture. -/
  | joinedFlagLetter
  /-- A flag before a joined picture, with or without a letter to spare before it. -/
  | joinedFlag (spare : Bool)
  /-- The end of the name of a region before a joined picture, by its letters and digits. -/
  | joinedRegion (letters digits : Nat)
deriving DecidableEq, Repr

/-- What a selector asks of the character before it. -/
inductive Selector where
  | text
  | picture
deriving DecidableEq, Repr

/-- What stands behind a character. -/
structure Ahead where
  opening : Opening := .plain
  selector : Option Selector := none
deriving DecidableEq, Repr

/-- Whether a character may be melted with across others that are not shown. -/
def Opening.isLetter : Opening → Bool
  | .letter .. | .alef => true
  | _ => false

/-- Whether a character before a selector still belongs to the joined picture. -/
def Opening.isJoined : Opening → Bool
  | .joinedPicture | .joinedKey => true
  | _ => false

/-- Whether a number lies between two others. -/
def between (first last n : Nat) : Bool := first ≤ n && n ≤ last

/-- The Arabic letters of the group of lam. -/
def isLam (c : Char) : Bool :=
  inSpans [(0x644, 0x644), (0x6B5, 0x6B8), (0x76A, 0x76A), (0x8A6, 0x8A6), (0x8C7, 0x8C7)] c.toNat

/-- The Arabic letters of the group of alef. -/
def isAlef (c : Char) : Bool :=
  inSpans
    [(0x622, 0x623), (0x625, 0x625), (0x627, 0x627), (0x671, 0x673), (0x675, 0x675),
      (0x773, 0x774), (0x870, 0x882)]
    c.toNat

/-- The letters of Khmer that can stand below another. -/
def isKhmerConsonant (c : Char) : Bool :=
  inSpans
    [(0x1780, 0x1782), (0x1784, 0x1787), (0x1789, 0x178C), (0x178E, 0x1793), (0x1795, 0x1798),
      (0x179B, 0x179D), (0x17A0, 0x17A0), (0x17A2, 0x17A2), (0x17A7, 0x17A7), (0x17AB, 0x17AC),
      (0x17AF, 0x17AF)]
    c.toNat

def isTifinaghConsonant (c : Char) : Bool := inSpans [(0x2D31, 0x2D65), (0x2D6F, 0x2D6F)] c.toNat

/-- The marks that are not shown. They stand between two letters as if they were not there. -/
def isUnseenMark (c : Char) : Bool :=
  inSpans
    [(0x34F, 0x34F), (0x17B4, 0x17B5), (0x180B, 0x180D), (0x180F, 0x180F), (0xFE00, 0xFE0F),
      (0xE0100, 0xE01EF)]
    c.toNat

/-- What a character is to one before it. -/
def Opening.ofChar (c : Char) : Opening :=
  let n := c.toNat
  if n = 0x5DC then .letter .hebrewLamed false
  else if isAlef c then .alef
  else if isKhmerConsonant c then .letter .khmerConsonant false
  else if n = 0x1A10 then .letter .bugineseYa false
  else if isTifinaghConsonant c then .letter .tifinaghConsonant false
  else if between 0xA4FC 0xA4FD n then .letter .lisuTone false
  else if n = 0x10C03 then .letter .turkicI false
  else if isFlagLetter c then .flagLetter
  else if isTone c then .tone
  else if isPicture c then .picture
  else .plain

/-- What a character adds if it melts with a letter, and what both are to one before them. -/
def Ligature.meld? (ligature : Ligature) (joined : Bool) (c : Char) : Option (Int × Opening) :=
  let n := c.toNat
  match ligature with
  | .hebrewLamed => if joined && n = 0x5D0 then some (0, .plain) else none
  | .khmerConsonant => if n = 0x17D2 then some (-1, .plain) else none
  | .bugineseYa => if joined && n = 0x1A17 then some (0, .letter .bugineseVowelYa false) else none
  | .bugineseVowelYa => if n = 0x1A15 then some (0, .plain) else none
  | .tifinaghConsonant =>
    if n = 0x2D7F then some (1, .letter .tifinaghJoiner false)
    else if joined && isTifinaghConsonant c then some (0, .plain)
    else none
  | .tifinaghJoiner => if isTifinaghConsonant c then some (-1, .plain) else none
  | .lisuTone => if between 0xA4F8 0xA4FB n then some (0, .plain) else none
  | .turkicI => if joined && n = 0x10C32 then some (0, .plain) else none

/-- The same before a picture and the joiner that precedes it. -/
def meldJoined? (c : Char) : Option (Int × Opening) :=
  let n := c.toNat
  if n = 0x20E3 then some (0, .joinedKey)
  else if isFlagLetter c then some (1, .joinedFlagLetter)
  else if isTone c then some (0, .tone)
  else if n = 0xE007F then some (0, .joinedRegion 0 0)
  else if isPicture c then some (0, .picture)
  else none

/-- The same within the name of a region, which is read from its end and precedes a black flag. A
name has up to six letters, or digits, which are three in the end, before at most four letters. -/
def meldRegion? (letters digits : Nat) (c : Char) : Option (Int × Opening) :=
  let n := c.toNat
  if between 0xE0061 0xE007A n && digits = 0 && letters < 6 then
    some (0, .joinedRegion (letters + 1) 0)
  else if between 0xE0030 0xE0039 n && (if digits = 0 then letters ≤ 4 else digits < 3) then
    some (0, .joinedRegion letters (digits + 1))
  else if n = 0x1F3F4 && (digits = 3 || digits = 0 && 3 ≤ letters) then some (0, .picture)
  else none

/-- What a character adds if it melts with what follows, and what all that is to one before it. -/
def Opening.meld? (opening : Opening) (c : Char) : Option (Int × Opening) :=
  match opening with
  | .plain | .joinedKey => none
  | .letter ligature joined =>
    if c = joiner then some (0, .letter ligature true)
    else if isUnseenMark c then some (0, opening)
    else ligature.meld? joined c
  | .alef =>
    if isLam c then some (0, .plain) else if isArabicMark c then some (0, .alef) else none
  | .tone =>
    if isBody c then some (0, .picture) else if c = joiner then some (0, .joinedPicture) else none
  | .flagLetter => if isFlagLetter c then some (1, .flagLetters) else none
  | .flagLetters =>
    if isFlagLetter c then some (1, .flagLetters)
    else if c = joiner then some (0, .joinedPicture)
    else none
  | .picture => if c = joiner then some (0, .joinedPicture) else none
  | .joinedPicture => meldJoined? c
  | .joinedFlagLetter => if isFlagLetter c then some (-1, .joinedFlag false) else none
  | .joinedFlag spare =>
    if isFlagLetter c then some (if spare then (-1, .joinedFlag false) else (3, .joinedFlag true))
    else if c = joiner then some (0, .joinedPicture)
    else none
  | .joinedRegion letters digits => meldRegion? letters digits c

/-- What a character adds to the columns of the text after it, and what stands behind a character
before it. Selectors take no column; the one next to a character counts. -/
def place (c : Char) (ahead : Ahead) : Int × Ahead :=
  if ahead.selector = some .picture && isSelectable c then
    (if ahead.opening.isJoined then 0 else 2, { opening := .picture })
  else if c ≤ '\u00a0' then (1, {})
  else
    let opening :=
      if ahead.selector = some .picture && !ahead.opening.isLetter then .plain else ahead.opening
    if c = pictureSelector then
      let stays := opening.isLetter || opening.isJoined
      (0, { opening := if stays then opening else .plain, selector := some .picture })
    else if c = textSelector then
      (0, { opening := if opening.isLetter then opening else .plain, selector := some .text })
    else if ahead.selector = some .text && isNarrowText c then (1, {})
    else
      let (width, opening) := (opening.meld? c).getD (charWidth c, .ofChar c)
      (width, { opening })

/-- The columns of a text on one line, and what stands behind a character before it. -/
def measure (text : List Char) : Int × Ahead :=
  text.foldr
    (fun c (total, ahead) =>
      let (width, ahead) := place c ahead
      (total + width, ahead))
    (0, {})

def columns (text : List Char) : Nat := (measure text).1.toNat

end CallOrder.Text
