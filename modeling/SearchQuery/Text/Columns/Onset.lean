import SearchQuery.Text.Columns.Emoji
import SearchQuery.Text.Columns.Script

/-!
How a text begins, as far as that changes the columns of a character put in front of it. Each step
gives the columns gained and how the longer text begins.
-/

namespace SearchQuery.Text

/-- What a text begins with. A letter is `joined` when a zero width joiner stands before it. -/
inductive Onset where
  | plain
  | arabicAlef
  | hebrewLamed (joined : Bool)
  | bugineseYa (joined : Bool)
  | bugineseVowelYa
  | tifinaghConsonant (joined : Bool)
  | tifinaghJoiner
  | lisuTone
  | turkicI (joined : Bool)
  | khmerStacked
  | kiratE
  | kiratAi
  | emoji
  | skinTone
  | regionalLetter
  | regionalLetters
  | joinedEmoji
  | joinedKeycap
  | joinedRegionalLetter
  | joinedRegionalLetters (even : Bool)
  | joinedTags (letters digits : Nat)
deriving DecidableEq, Repr

/-- A variation selector, which chooses a form of the character before it. -/
inductive Selector where
  | asText
  | asEmoji
  | asWideQuote
deriving DecidableEq, Repr

def Selector.ofChar? (c : Char) : Option Selector :=
  if c = '\uFE0F' then some .asEmoji
  else if c = '\uFE0E' then some .asText
  else if c = '\uFE01' then some .asWideQuote
  else none

/-- The start of a text: which selectors it begins with, and what follows them. Several stand in
front of a letter only. -/
structure Start where
  onset : Onset
  asText : Bool := false
  asEmoji : Bool := false
  asWideQuote : Bool := false
deriving DecidableEq, Repr

def zeroWidthJoiner : Char := '\u200D'

namespace Onset

/-- The start of a text whose first character does not join the one after it. -/
def ofChar (c : Char) : Onset :=
  if alefRanges.has c then .arabicAlef
  else if c = '\u05DC' then .hebrewLamed false
  else if c = '\u1A10' then .bugineseYa false
  else if tifinaghConsonantRanges.has c then .tifinaghConsonant false
  else if c = '\uA4FC' || c = '\uA4FD' then .lisuTone
  else if c.toNat = 0x10C03 then .turkicI false
  else if khmerStackedRanges.has c then .khmerStacked
  else if c.toNat = 0x16D67 then .kiratE
  else if c.toNat = 0x16D68 then .kiratAi
  else if isRegionalLetter c then .regionalLetter
  else if isSkinTone c then .skinTone
  else if emojiRanges.has c then .emoji
  else .plain

/-- Letters that stay joined to the character before them across a selector. -/
def isLigature : Onset → Bool
  | arabicAlef | hebrewLamed _ | bugineseYa _ | bugineseVowelYa | tifinaghConsonant _
  | tifinaghJoiner | lisuTone | turkicI _ | khmerStacked => true
  | _ => false

/-- Letters that also stay so across invisible marks and joiners. -/
def admitsMarks : Onset → Bool
  | arabicAlef => false
  | onset => onset.isLigature

/-- A picture joined to the one before it, where both are shown as one. -/
def isJoinedPicture : Onset → Bool
  | joinedEmoji | joinedKeycap => true
  | _ => false

def join : Onset → Onset
  | hebrewLamed _ => hebrewLamed true
  | bugineseYa _ => bugineseYa true
  | tifinaghConsonant _ => tifinaghConsonant true
  | turkicI _ => turkicI true
  | onset => onset

/-- A letter of a script in front of one that it shares columns with. -/
def extendLetter? (c : Char) : Onset → Option (Int × Onset)
  | arabicAlef =>
    if lamRanges.has c then some (0, plain)
    else if joinsAcross c then some (0, arabicAlef)
    else none
  | hebrewLamed true => if c = '\u05D0' then some (0, plain) else none
  | bugineseYa true => if c = '\u1A17' then some (0, bugineseVowelYa) else none
  | bugineseVowelYa => if c = '\u1A15' then some (0, plain) else none
  | tifinaghConsonant joined =>
    if c = '\u2D7F' then some (1, tifinaghJoiner)
    else if joined && tifinaghConsonantRanges.has c then some (0, plain)
    else none
  | tifinaghJoiner => if tifinaghConsonantRanges.has c then some (-1, plain) else none
  | lisuTone => if 0xA4F8 ≤ c.toNat && c.toNat ≤ 0xA4FB then some (0, plain) else none
  | turkicI true => if c.toNat = 0x10C32 then some (0, plain) else none
  | khmerStacked => if c = '\u17D2' then some (-1, plain) else none
  | kiratE =>
    if c.toNat = 0x16D63 || c.toNat = 0x16D69 then some (0, plain)
    else if c.toNat = 0x16D67 then some (0, kiratAi)
    else if c.toNat = 0x16D68 then some (1, kiratE)
    else none
  | kiratAi => if c.toNat = 0x16D63 then some (0, plain) else none
  | _ => none

/-- A part of a picture in front of the rest of it. -/
def extendEmoji? (c : Char) : Onset → Option (Int × Onset)
  | emoji => if c = zeroWidthJoiner then some (0, joinedEmoji) else none
  | skinTone =>
    if skinToneBaseRanges.has c then some (0, emoji)
    else if c = zeroWidthJoiner then some (0, joinedEmoji)
    else none
  | regionalLetter => if isRegionalLetter c then some (1, regionalLetters) else none
  | regionalLetters =>
    if isRegionalLetter c then some (1, regionalLetters)
    else if c = zeroWidthJoiner then some (0, joinedEmoji)
    else none
  | joinedEmoji =>
    if c = '\u20E3' then some (0, joinedKeycap)
    else if isRegionalLetter c then some (1, joinedRegionalLetter)
    else if isSkinTone c then some (0, skinTone)
    else if c.toNat = 0xE007F then some (0, joinedTags 0 0)
    else if emojiRanges.has c then some (0, emoji)
    else none
  | joinedRegionalLetter =>
    if isRegionalLetter c then some (-1, joinedRegionalLetters true) else none
  | joinedRegionalLetters even =>
    if isRegionalLetter c then some (if even then 3 else -1, joinedRegionalLetters !even)
    else if c = zeroWidthJoiner then some (0, joinedEmoji)
    else none
  | joinedTags letters digits =>
    if isTagLetter c && letters < 6 && digits = 0 then some (0, joinedTags (letters + 1) 0)
    else if isTagDigit c && (if digits = 0 then letters < 5 else digits < 3) then
      some (0, joinedTags letters (digits + 1))
    else if c.toNat = 0x1F3F4 && (digits = 3 || (digits = 0 && 3 ≤ letters)) then some (0, emoji)
    else none
  | _ => none

end Onset

namespace Start

/-- The character does not join what is behind it. -/
def ofAlone (c : Char) : Int × Start :=
  (charColumns c, { onset := .ofChar c })

/-- A selector in front of a text. Pictures that are joined to others keep being so only if shown
as pictures. -/
def select (selector : Selector) (start : Start) : Start :=
  let keeps := start.onset.isLigature || (selector = .asEmoji && start.onset.isJoinedPicture)
  let rest : Start := if keeps then start else { onset := .plain }
  match selector with
  | .asText => { rest with asText := true }
  | .asEmoji => { rest with asEmoji := true }
  | .asWideQuote => { rest with asWideQuote := true }

/-- What is left if no picture is in front of its selector. -/
def dropEmoji (start : Start) : Start :=
  if !start.asEmoji then start
  else if start.onset.isLigature then { start with asEmoji := false }
  else { onset := .plain }

/-- A character that is no selector in front of a text without one. -/
def extendOnset (c : Char) (onset : Onset) : Int × Start :=
  if onset.admitsMarks && c = zeroWidthJoiner then (0, { onset := onset.join })
  else if onset.admitsMarks && invisibleMarkRanges.has c then (0, { onset })
  else
    match (onset.extendLetter? c).orElse fun _ => onset.extendEmoji? c with
    | some (gained, longer) => (gained, { onset := longer })
    | none => ofAlone c

/-- The columns that a text gains by a character in front of it, and the start of the longer
text. -/
def extend (c : Char) (start : Start) : Int × Start :=
  if start.asEmoji && twoFormRanges.has c then
    (if start.onset.isJoinedPicture then 0 else 2, { onset := .emoji })
  else if c.toNat ≤ 0xA0 then (1, { onset := .plain })
  else
    match Selector.ofChar? c with
    | some selector => (0, start.dropEmoji.select selector)
    | none =>
      if start.asText && narrowsAsText c then (1, { onset := .plain })
      else if start.asWideQuote && (c = '‘' || c = '’' || c = '“' || c = '”') then
        (2, { onset := .plain })
      else extendOnset c start.dropEmoji.onset

end Start

end SearchQuery.Text
