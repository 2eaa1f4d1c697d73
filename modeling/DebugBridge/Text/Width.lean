import DebugBridge.Text.Hidden
import DebugBridge.Text.Width.Ranges

/-!
# Display width

How many columns a line takes on a terminal: two for wide East Asian characters and pictures, none
for marks and other characters that add to the one before them, one for everything else, control
characters included. A Khmer sign that stands for three characters takes three.

Some characters take other widths next to certain ones, so a line is measured from its end: each
character gets its columns from what stands after it (`Next`), and says what it is for the one
before it (`step`).

* A selector after a character asks for its picture, of two columns, or for its text, of one; one
  asks for wide quotation marks.
* A skin tone belongs to the person before it, and pictures that are joined are one picture.
* Some letters are drawn as one with the letters before them: in Arabic lam and alef, marks between
  them counted in, and in other scripts the pairs that `Follower` names. A selector or joiner
  between such letters does not part them.
-/

namespace DebugBridge.Text

/-! ## What stands after a character -/

/-- What a character stands before, as far as its columns depend on it. -/
inductive Follower where
  | other
  | skinTone
  /-- The letter of a flag. -/
  | flagLetter
  /-- Several letters of flags. -/
  | flagLetters
  | picture
  /-- A joiner and a picture, with the frame of a keycap in front of them or without. -/
  | joined (keycap : Bool)
  /-- One letter of a flag, and a joiner and a picture. -/
  | joinedLetter
  /-- Whole flags, and a joiner and a picture. -/
  | joinedFlags
  /-- One letter more than whole flags, and a joiner and a picture. -/
  | joinedFlagsLetter
  /-- The end of a region's name in tags, read up to here, and a joiner and a picture. -/
  | joinedTags (letters digits : Nat)
  | kiratRaiE
  | kiratRaiAi
  | alef
  | lamed (joiner : Bool)
  | bugineseYa (joiner : Bool)
  /-- The Buginese vowel i before a joiner and the letter ya. -/
  | bugineseIYa
  | tifinagh (joiner : Bool)
  /-- The Tifinagh joiner before a letter. -/
  | tifinaghJoiner
  | lisuTone
  | orkhonI (joiner : Bool)
  | khmerLetter
  deriving DecidableEq, Repr, Inhabited

namespace Follower

/-- Whether selectors in front leave in place what stands after them. -/
def isLetter : Follower → Bool
  | alef | lamed _ | bugineseYa _ | bugineseIYa | tifinagh _ | tifinaghJoiner | lisuTone
  | orkhonI _ | khmerLetter => true
  | _ => false

/-- What stands after the character before a joiner; none if the joiner parts them. -/
def withJoiner? : Follower → Option Follower
  | lamed _ => some (lamed true)
  | bugineseYa _ => some (bugineseYa true)
  | bugineseIYa => some bugineseIYa
  | tifinagh _ => some (tifinagh true)
  | tifinaghJoiner => some tifinaghJoiner
  | lisuTone => some lisuTone
  | orkhonI _ => some (orkhonI true)
  | khmerLetter => some khmerLetter
  | picture | flagLetters | joinedFlags | joinedFlagsLetter | skinTone => some (joined false)
  | _ => none

end Follower

/-- What stands after a character: its follower, and the selectors between them. -/
structure Next where
  follower : Follower := .other
  asPicture : Bool := false
  asText : Bool := false
  asWide : Bool := false
  deriving DecidableEq, Repr, Inhabited

namespace Next

/-- What stands after a character before the selector of pictures. -/
def selectPicture (n : Next) : Next :=
  match n.follower with
  | .joined _ => { n with asPicture := true }
  | f => if f.isLetter then { n with asPicture := true } else { asPicture := true }

/-- What stands after a character before the selector of text. -/
def selectText (n : Next) : Next :=
  if n.follower.isLetter then { n with asText := true } else { asText := true }

/-- What stands after a character before the selector of wide marks. -/
def selectWide (n : Next) : Next :=
  if n.follower.isLetter then { n with asWide := true } else { asWide := true }

/-- What stands after a character that takes no picture. -/
def dropPicture (n : Next) : Next :=
  if !n.asPicture then n
  else if n.follower.isLetter then { n with asPicture := false }
  else {}

/-- What stands after a character that takes neither text nor width from a selector. -/
def dropSelectors (n : Next) : Next :=
  if !n.asText && !n.asWide then n
  else if n.follower.isLetter then { n with asText := false, asWide := false }
  else {}

end Next

/-! ## Kinds of characters -/

/-- Whether a selector may ask for the picture of a character. -/
def mayBePicture (c : Char) : Bool := inRanges twofoldRanges c

/-- Whether a selector may ask for the text of a picture; the ones with ideographs stay wide. -/
def mayBeText (c : Char) : Bool :=
  inRanges twofoldRanges c && inRanges pictureRanges c &&
    !(0x1F200 ≤ c.toNat && c.toNat ≤ 0x1F2FF)

/-- The letters of flags. -/
def isFlagLetter (c : Char) : Bool := 0x1F1E6 ≤ c.toNat && c.toNat ≤ 0x1F1FF

/-- The tones of skin. -/
def isSkinTone (c : Char) : Bool := 0x1F3FB ≤ c.toNat && c.toNat ≤ 0x1F3FF

/-- The letters of tags. -/
def isTagLetter (c : Char) : Bool := 0xE0061 ≤ c.toNat && c.toNat ≤ 0xE007A

/-- The digits of tags. -/
def isTagDigit (c : Char) : Bool := 0xE0030 ≤ c.toNat && c.toNat ≤ 0xE0039

/-- Arabic letters of the shape of an alef. -/
def isAlef (c : Char) : Bool :=
  inRanges [(0x0622, 0x0623), (0x0625, 0x0625), (0x0627, 0x0627), (0x0671, 0x0673),
    (0x0675, 0x0675), (0x0773, 0x0774), (0x0870, 0x0882)] c

/-- Arabic letters of the shape of a lam. -/
def isLam (c : Char) : Bool :=
  inRanges [(0x0644, 0x0644), (0x06B5, 0x06B8), (0x076A, 0x076A), (0x08A6, 0x08A6),
    (0x08C7, 0x08C7)] c

/-- Khmer letters that may stand below another one. -/
def isKhmerLetter (c : Char) : Bool :=
  inRanges [(0x1780, 0x1782), (0x1784, 0x1787), (0x1789, 0x178C), (0x178E, 0x1793),
    (0x1795, 0x1798), (0x179B, 0x179D), (0x17A0, 0x17A0), (0x17A2, 0x17A2), (0x17A7, 0x17A7),
    (0x17AB, 0x17AC), (0x17AF, 0x17AF)] c

/-- Tifinagh letters that may be drawn as one. -/
def isTifinagh (c : Char) : Bool := inRanges [(0x2D31, 0x2D65), (0x2D6F, 0x2D6F)] c

/-- Lisu tones that may be the first of two. -/
def isFirstLisuTone (c : Char) : Bool := 0xA4F8 ≤ c.toNat && c.toNat ≤ 0xA4FB

/-- Quotation marks that may be wide. -/
def mayBeWide (c : Char) : Bool :=
  c = '\u2018' || c = '\u2019' || c = '\u201c' || c = '\u201d'

/-- Marks that are ignored by default. -/
def isIgnoredMark (c : Char) : Bool :=
  inRanges [(0x034F, 0x034F), (0x17B4, 0x17B5), (0x180B, 0x180D), (0x180F, 0x180F),
    (0xFE00, 0xFE0F), (0xE0100, 0xE01EF)] c

/-- The columns of a character by itself. -/
def charWidth (c : Char) : Nat :=
  if c.toNat ≤ 0xA0 then 1
  else if c = '\u17d8' then 3
  else if inRanges emptyRanges c then 0
  else if inRanges wideRanges c then 2
  else 1

/-- What a character is for the one before it. -/
def followerOf (c : Char) : Follower :=
  if isAlef c then .alef
  else if c = '\u05dc' then .lamed false
  else if isKhmerLetter c then .khmerLetter
  else if c = '\u1a10' then .bugineseYa false
  else if isTifinagh c then .tifinagh false
  else if c = '\ua4fc' || c = '\ua4fd' then .lisuTone
  else if c.toNat = 0x10C03 then .orkhonI false
  else if c.toNat = 0x16D67 then .kiratRaiE
  else if c.toNat = 0x16D68 then .kiratRaiAi
  else if isFlagLetter c then .flagLetter
  else if isSkinTone c then .skinTone
  else if inRanges pictureRanges c then .picture
  else .other

/-! ## Characters that change next to others -/

/-- The columns of a letter that is drawn as one with what stands after it, and what both are for
the one before. -/
def letterStep? (c : Char) (after : Follower) : Option (Int × Follower) :=
  match after with
  | .alef =>
    if isLam c then some (0, .other)
    else if inRanges emptyRanges c && !inRanges dividingRanges c then some (0, .alef)
    else none
  | .lamed true => if c = '\u05d0' then some (0, .other) else none
  | .khmerLetter => if c = '\u17d2' then some (-1, .other) else none
  | .bugineseYa true => if c = '\u1a17' then some (0, .bugineseIYa) else none
  | .bugineseIYa => if c = '\u1a15' then some (0, .other) else none
  | .tifinagh joiner =>
    if c = '\u2d7f' then some (1, .tifinaghJoiner)
    else if joiner && isTifinagh c then some (0, .other)
    else none
  | .tifinaghJoiner => if isTifinagh c then some (-1, .other) else none
  | .lisuTone => if isFirstLisuTone c then some (0, .other) else none
  | .orkhonI true => if c.toNat = 0x10C32 then some (0, .other) else none
  | .kiratRaiE =>
    if c.toNat = 0x16D63 || c.toNat = 0x16D69 then some (0, .other)
    else if c.toNat = 0x16D67 then some (0, .kiratRaiAi)
    else if c.toNat = 0x16D68 then some (1, .kiratRaiE)
    else none
  | .kiratRaiAi => if c.toNat = 0x16D63 then some (0, .other) else none
  | _ => none

/-- Reads one more tag of a region's name from the end: up to six letters, or three digits with up
to four letters after them. -/
def tagStep? (c : Char) (letters digits : Nat) : Option Follower :=
  if isTagLetter c && digits = 0 && letters < 6 then some (.joinedTags (letters + 1) 0)
  else if isTagDigit c && digits < 3 && (digits != 0 || letters ≤ 4) then
    some (.joinedTags letters (digits + 1))
  else if c.toNat = 0x1F3F4 && (digits = 3 || (digits = 0 && 3 ≤ letters)) then some .picture
  else none

/-- The columns of a character that is part of a picture with what stands after it, and what both
are for the one before. A pair of letters for a flag before a joiner takes no columns. -/
def pictureStep? (c : Char) (after : Follower) : Option (Int × Follower) :=
  match after with
  | .skinTone => if inRanges personRanges c then some (0, .picture) else none
  | .flagLetter | .flagLetters => if isFlagLetter c then some (1, .flagLetters) else none
  | .joined false =>
    if c = '\u20e3' then some (0, .joined true)
    else if isFlagLetter c then some (1, .joinedLetter)
    else if isSkinTone c then some (0, .skinTone)
    else if c.toNat = 0xE007F then some (0, .joinedTags 0 0)
    else if inRanges pictureRanges c then some (0, .picture)
    else none
  | .joinedLetter | .joinedFlagsLetter =>
    if isFlagLetter c then some (-1, .joinedFlags) else none
  | .joinedFlags => if isFlagLetter c then some (3, .joinedFlagsLetter) else none
  | .joinedTags letters digits => (tagStep? c letters digits).map (0, ·)
  | _ => none

/-! ## Lines -/

/-- The columns of a character beyond Latin-1, no selector, that takes nothing from one. -/
def plainStep (c : Char) (after : Follower) : Int × Next :=
  let changed :=
    if c = '\u200d' then after.withJoiner?.map (0, ·)
    else if after.isLetter && after != .alef && isIgnoredMark c then some (0, after)
    else letterStep? c after <|> pictureStep? c after
  match changed with
  | some (columns, follower) => (columns, { follower })
  | none => (charWidth c, { follower := followerOf c })

/-- The columns of a character before `next`, and what stands after the character before it. -/
def step (c : Char) (next : Next) : Int × Next :=
  if next.asPicture && mayBePicture c then
    (if next.follower matches .joined _ then 0 else 2, { follower := .picture })
  else
    let next := next.dropPicture
    if c.toNat ≤ 0xA0 then (1, {})
    else if c = '\ufe0f' then (0, next.selectPicture)
    else if c = '\ufe0e' then (0, next.selectText)
    else if c = '\ufe01' then (0, next.selectWide)
    else if next.asText && mayBeText c then (1, {})
    else if next.asWide && mayBeWide c then (2, {})
    else plainStep c next.dropSelectors.follower

/-- The columns of a line. -/
def width (line : String) : Nat :=
  (line.toList.foldr (fun c (columns, next) =>
    let (more, here) := step c next
    (columns + more, here)) ((0 : Int), ({} : Next))).1.toNat

end DebugBridge.Text
