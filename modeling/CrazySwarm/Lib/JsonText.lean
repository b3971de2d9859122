import CrazySwarm.Lib.Sorting
import Mathlib.Data.String.Basic

/-! JSON trees and their compact text. A text is read back in one way only, whatever follows it,
so trees with one text are one tree, up to the order of the keys where those are sorted first. -/

inductive JsonTree where
  | null
  | bool (value : Bool)
  | int (value : Int)
  | str (value : String)
  | list (items : List JsonTree)
  | dict (items : List (String × JsonTree))

namespace JsonTree
open List

section Text

def hex4 (n : Nat) : List Char :=
  [n / 4096 % 16, n / 256 % 16, n / 16 % 16, n % 16].map Nat.digitChar

def escape (n : Nat) : List Char := '\\' :: 'u' :: hex4 n

/-- Everything but printable ASCII is escaped, beyond the first plane by two surrogates. -/
def escapeChar (c : Char) : List Char :=
  if c = '"' then ['\\', '"']
  else if c = '\\' then ['\\', '\\']
  else if c = '\n' then ['\\', 'n']
  else if c = '\r' then ['\\', 'r']
  else if c = '\t' then ['\\', 't']
  else if c = Char.ofNat 12 then ['\\', 'f']
  else if c = Char.ofNat 8 then ['\\', 'b']
  else if 32 ≤ c.toNat ∧ c.toNat ≤ 126 then [c]
  else if c.toNat < 0x10000 then escape c.toNat
  else escape (0xd800 + (c.toNat - 0x10000) / 1024) ++ escape (0xdc00 + (c.toNat - 0x10000) % 1024)

def escaped : List Char → List Char
  | [] => ['"']
  | c :: rest => escapeChar c ++ escaped rest

def quote (s : String) : List Char := '"' :: escaped s.toList

def intText (i : Int) : List Char :=
  if i < 0 then '-' :: Nat.toDigits 10 i.natAbs else Nat.toDigits 10 i.natAbs

/-- The items after the first, and the closing bracket. -/
def following (close : Char) : List (List Char) → List Char
  | [] => [close]
  | text :: rest => ',' :: (text ++ following close rest)

def enclosed (close : Char) : List (List Char) → List Char
  | [] => [close]
  | text :: rest => text ++ following close rest

def memberText (key : String) (text : List Char) : List Char := quote key ++ ':' :: text

mutual

def text : JsonTree → List Char
  | null => ['n', 'u', 'l', 'l']
  | bool true => ['t', 'r', 'u', 'e']
  | bool false => ['f', 'a', 'l', 's', 'e']
  | int value => intText value
  | str value => quote value
  | list items => '[' :: enclosed ']' (itemTexts items)
  | dict items => '\x7b' :: enclosed '\x7d' (memberTexts items)

def itemTexts : List JsonTree → List (List Char)
  | [] => []
  | item :: rest => item.text :: itemTexts rest

def memberTexts : List (String × JsonTree) → List (List Char)
  | [] => []
  | (key, value) :: rest => memberText key value.text :: memberTexts rest

end

mutual

def sortKeys : JsonTree → JsonTree
  | null => null
  | bool value => bool value
  | int value => int value
  | str value => str value
  | list items => list (sortKeysItems items)
  | dict items => dict (Sorting.sortBy Prod.fst (sortKeysMembers items))

def sortKeysItems : List JsonTree → List JsonTree
  | [] => []
  | item :: rest => item.sortKeys :: sortKeysItems rest

def sortKeysMembers : List (String × JsonTree) → List (String × JsonTree)
  | [] => []
  | (key, value) :: rest => (key, value.sortKeys) :: sortKeysMembers rest

end

/-- `json.dumps(value, sort_keys=True, separators=(",", ":"))`. -/
def dumps (tree : JsonTree) : String := String.ofList tree.sortKeys.text

example : (dict [("b", list [int (-12), null]), ("a", str "\"")]).dumps =
    "\x7b\"a\":\"\\\"\",\"b\":[-12,null]\x7d" := by decide +kernel

end Text

section Shape

theorem itemTexts_eq_map (items : List JsonTree) : itemTexts items = items.map text := by
  induction items with
  | nil => rfl
  | cons item rest ih => simp [itemTexts, ih]

theorem memberTexts_eq_map (items : List (String × JsonTree)) :
    memberTexts items = items.map fun member => memberText member.1 member.2.text := by
  induction items with
  | nil => rfl
  | cons member rest ih => simp [memberTexts, ih]

theorem sortKeysItems_eq_map (items : List JsonTree) :
    sortKeysItems items = items.map sortKeys := by
  induction items with
  | nil => rfl
  | cons item rest ih => simp [sortKeysItems, ih]

theorem sortKeysMembers_eq_map (items : List (String × JsonTree)) :
    sortKeysMembers items = items.map fun member => (member.1, member.2.sortKeys) := by
  induction items with
  | nil => rfl
  | cons member rest ih => simp [sortKeysMembers, ih]

@[simp] theorem text_list (items : List JsonTree) :
    (list items).text = '[' :: enclosed ']' (items.map text) := by
  rw [text, itemTexts_eq_map]

@[simp] theorem text_dict (items : List (String × JsonTree)) :
    (dict items).text = '\x7b' :: enclosed '\x7d'
      (items.map fun member => memberText member.1 member.2.text) := by
  rw [text, memberTexts_eq_map]

@[simp] theorem sortKeys_list (items : List JsonTree) :
    (list items).sortKeys = list (items.map sortKeys) := by
  rw [sortKeys, sortKeysItems_eq_map]

@[simp] theorem sortKeys_dict (items : List (String × JsonTree)) :
    (dict items).sortKeys =
      dict (Sorting.sortBy Prod.fst (items.map fun member => (member.1, member.2.sortKeys))) := by
  rw [sortKeys, sortKeysMembers_eq_map]

section Induction

def children : JsonTree → List JsonTree
  | list items => items
  | dict items => items.map Prod.snd
  | _ => []

def Hereditary (P : JsonTree → Prop) : Prop :=
  ∀ tree : JsonTree, (∀ child ∈ tree.children, P child) → P tree

variable {P : JsonTree → Prop}

mutual

theorem Hereditary.every (step : Hereditary P) : ∀ tree, P tree
  | .null => step null nofun
  | .bool value => step (bool value) nofun
  | .int value => step (int value) nofun
  | .str value => step (str value) nofun
  | .list items => step (list items) (step.items items)
  | .dict items => step (dict items) fun child among => by
    obtain ⟨member, listed, rfl⟩ := mem_map.mp among
    exact step.members items member listed

theorem Hereditary.items (step : Hereditary P) : ∀ items : List JsonTree, ∀ item ∈ items, P item
  | [] => fun _ absent => absurd absent not_mem_nil
  | first :: rest => fun item member => by
    rcases mem_cons.mp member with same | later
    · exact same ▸ step.every first
    · exact step.items rest item later

theorem Hereditary.members (step : Hereditary P) :
    ∀ items : List (String × JsonTree), ∀ member ∈ items, P member.2
  | [] => fun _ absent => absurd absent not_mem_nil
  | (key, value) :: rest => fun member among => by
    rcases mem_cons.mp among with same | later
    · exact same ▸ step.every value
    · exact step.members rest member later

end

end Induction

end Shape

section Characters

/-- The value of a hexadecimal digit. -/
def hexValue (c : Char) : Nat := if c.isDigit then c.toNat - 48 else c.toNat - 87

def readHex : List Char → Nat := foldl (fun n c => 16 * n + hexValue c) 0

theorem hexValue_digitChar {n : Nat} (small : n < 16) : hexValue n.digitChar = n := by
  have every : ∀ n < 16, hexValue (Nat.digitChar n) = n := by decide
  exact every n small

theorem readHex_hex4 {n : Nat} (small : n < 65536) : readHex (hex4 n) = n := by
  simp only [readHex, hex4, map_cons, map_nil, foldl_cons, foldl_nil]
  rw [hexValue_digitChar, hexValue_digitChar, hexValue_digitChar, hexValue_digitChar]
  all_goals omega

def readShort (c : Char) : Char :=
  if c = 'n' then '\n' else if c = 'r' then '\r' else if c = 't' then '\t'
  else if c = 'f' then Char.ofNat 12 else if c = 'b' then Char.ofNat 8 else c

/-- The character of an escape: a high surrogate stands with the low one that follows. -/
def readEscape (text : List Char) : Char × List Char :=
  let n := readHex (text.take 4)
  if 0xd800 ≤ n ∧ n < 0xdc00 then
    (Char.ofNat (0x10000 + (n - 0xd800) * 1024 + (readHex ((text.drop 6).take 4) - 0xdc00)),
      text.drop 10)
  else (Char.ofNat n, text.drop 4)

def readChar : List Char → Option (Char × List Char)
  | '\\' :: 'u' :: rest => some (readEscape rest)
  | '\\' :: c :: rest => some (readShort c, rest)
  | c :: rest => some (c, rest)
  | [] => none

theorem hex4_append (n : Nat) (rest : List Char) :
    (hex4 n ++ rest).take 4 = hex4 n ∧ (hex4 n ++ rest).drop 4 = rest := ⟨rfl, rfl⟩

theorem readChar_plain {c : Char} (plain : c ≠ '\\') (rest : List Char) :
    readChar (c :: rest) = some (c, rest) := by
  unfold readChar
  split <;> simp_all

/-- A character outside the surrogates is its own escape. -/
theorem readChar_escape {c : Char} (small : c.toNat < 0x10000) (rest : List Char) :
    readChar (escape c.toNat ++ rest) = some (c, rest) := by
  have valid : c.toNat < 0xd800 ∨ 0xdfff < c.toNat := by
    have := c.valid
    simp only [UInt32.isValidChar, Nat.isValidChar] at this
    simp only [Char.toNat]
    omega
  have single : ¬(0xd800 ≤ c.toNat ∧ c.toNat < 0xdc00) := by omega
  simp only [escape, cons_append, readChar, readEscape, hex4_append, readHex_hex4 small,
    if_neg single, Char.ofNat_toNat]

theorem readChar_surrogates {c : Char} (large : 0x10000 ≤ c.toNat) (rest : List Char) :
    readChar (escape (0xd800 + (c.toNat - 0x10000) / 1024) ++
      escape (0xdc00 + (c.toNat - 0x10000) % 1024) ++ rest) = some (c, rest) := by
  have valid : c.toNat < 0x110000 := by
    have := c.valid
    simp only [UInt32.isValidChar, Nat.isValidChar] at this
    simp only [Char.toNat]
    omega
  generalize high : 0xd800 + (c.toNat - 0x10000) / 1024 = h
  generalize low : 0xdc00 + (c.toNat - 0x10000) % 1024 = l
  have whole : 0x10000 + (h - 0xd800) * 1024 + (l - 0xdc00) = c.toNat := by omega
  have first : readHex (hex4 h) = h := readHex_hex4 (by omega)
  have second : readHex (hex4 l) = l := readHex_hex4 (by omega)
  have pair : 0xd800 ≤ h ∧ h < 0xdc00 := by omega
  show some (readEscape (hex4 h ++ escape l ++ rest)) = _
  simp only [readEscape, append_assoc, hex4_append, first, if_pos pair]
  show some (Char.ofNat (0x10000 + (h - 0xd800) * 1024 + (readHex (hex4 l) - 0xdc00)), rest) = _
  rw [second, whole, Char.ofNat_toNat]

theorem readChar_escapeChar (c : Char) (rest : List Char) :
    readChar (escapeChar c ++ rest) = some (c, rest) := by
  unfold escapeChar
  split_ifs with quoted back newline ret tab feed backspace printable small
  · subst quoted; rfl
  · subst back; rfl
  · subst newline; rfl
  · subst ret; rfl
  · subst tab; rfl
  · subst feed; rfl
  · subst backspace; rfl
  · exact readChar_plain back rest
  · exact readChar_escape small rest
  · exact readChar_surrogates (by omega) rest

theorem escapeChar_ne_quote (c : Char) (rest tail : List Char) :
    escapeChar c ++ rest ≠ '"' :: tail := by
  intro same
  have read := readChar_escapeChar c rest
  rw [same, readChar_plain (by decide)] at read
  cases read
  cases same

/-- Strings are told apart by their quoted texts, whatever follows those. -/
theorem escaped_separates {a b r s : List Char} (same : escaped a ++ r = escaped b ++ s) :
    a = b ∧ r = s := by
  induction a generalizing b with
  | nil =>
    cases b with
    | nil => exact ⟨rfl, (cons.inj same).2⟩
    | cons d b =>
      rw [escaped, escaped, append_assoc] at same
      exact absurd same.symm (escapeChar_ne_quote d _ r)
  | cons c a ih =>
    cases b with
    | nil =>
      rw [escaped, escaped, append_assoc] at same
      exact absurd same (escapeChar_ne_quote c _ s)
    | cons d b =>
      rw [escaped, escaped, append_assoc, append_assoc] at same
      have read := congrArg readChar same
      rw [readChar_escapeChar, readChar_escapeChar] at read
      obtain ⟨rfl, rest⟩ := Prod.mk.inj (Option.some.inj read)
      obtain ⟨rfl, rfl⟩ := ih rest
      exact ⟨rfl, rfl⟩

theorem quote_separates {a b : String} {r s : List Char} (same : quote a ++ r = quote b ++ s) :
    a = b ∧ r = s := by
  obtain ⟨chars, rest⟩ := escaped_separates (cons.inj same).2
  exact ⟨String.toList_inj.mp chars, rest⟩

end Characters

section Separation

/-- What can follow a value: the end of the text, a comma or a closing bracket. -/
def Stops (rest : List Char) : Prop := ∀ c ∈ rest.head?, c = ',' ∨ c = ']' ∨ c = '\x7d'

@[simp] theorem stops_nil : Stops [] := by simp [Stops]

@[simp] theorem stops_cons {c : Char} {rest : List Char} :
    Stops (c :: rest) ↔ c = ',' ∨ c = ']' ∨ c = '\x7d' := by simp [Stops]

theorem takeWhile_digits {digits rest : List Char} (all : ∀ c ∈ digits, c.isDigit = true)
    (stops : Stops rest) : (digits ++ rest).takeWhile Char.isDigit = digits := by
  rw [takeWhile_append_of_pos all]
  cases rest with
  | nil => simp
  | cons c rest =>
    have other : c.isDigit = false := by
      rcases stops_cons.mp stops with rfl | rfl | rfl <;> rfl
    simp [other]

theorem toDigits_separates {m n : Nat} {r s : List Char} (first : Stops r) (second : Stops s)
    (same : Nat.toDigits 10 m ++ r = Nat.toDigits 10 n ++ s) : m = n ∧ r = s := by
  have digits (k : Nat) : ∀ c ∈ Nat.toDigits 10 k, c.isDigit = true := fun _ member =>
    Nat.isDigit_of_mem_toDigits (by decide) (by decide) member
  have read := congrArg (takeWhile Char.isDigit) same
  rw [takeWhile_digits (digits m) first, takeWhile_digits (digits n) second] at read
  have value := congrArg (fun text => Nat.ofDigitChars 10 text 0) read
  simp only [Nat.ofDigitChars_ten_toDigits] at value
  subst value
  exact ⟨rfl, append_cancel_left same⟩

theorem minus_ne_toDigits {n : Nat} {r s : List Char} : '-' :: r ≠ Nat.toDigits 10 n ++ s := by
  intro same
  cases digits : Nat.toDigits 10 n with
  | nil => exact Nat.toDigits_ne_nil digits
  | cons c rest =>
    rw [digits, cons_append] at same
    obtain ⟨rfl, -⟩ := cons.inj same
    have digit : '-'.isDigit = true :=
      Nat.isDigit_of_mem_toDigits (by decide) (by decide) (digits ▸ mem_cons_self)
    exact absurd digit (by decide)

theorem intText_separates {i j : Int} {r s : List Char} (first : Stops r) (second : Stops s)
    (same : intText i ++ r = intText j ++ s) : i = j ∧ r = s := by
  unfold intText at same
  split at same <;> split at same
  · obtain ⟨value, rest⟩ := toDigits_separates first second (cons.inj same).2
    exact ⟨by omega, rest⟩
  · exact absurd same minus_ne_toDigits
  · exact absurd same.symm minus_ne_toDigits
  · obtain ⟨value, rest⟩ := toDigits_separates first second same
    exact ⟨by omega, rest⟩

/-- A text is told apart from every other of its kind, whatever stops either. -/
def Separates {α : Type} (text : α → List Char) (a : α) : Prop :=
  ∀ b r s, Stops r → Stops s → text a ++ r = text b ++ s → a = b ∧ r = s

variable {α : Type} {text : α → List Char} {close : Char}

theorem following_stops {items : List α} {r : List Char} (bracket : Stops [close]) :
    Stops (following close (items.map text) ++ r) := by
  cases items with
  | nil => exact stops_cons.mpr (stops_cons.mp bracket)
  | cons item rest => exact stops_cons.mpr (.inl rfl)

theorem following_separates {as bs : List α} {r s : List Char} (bracket : Stops [close])
    (apart : close ≠ ',') (separates : ∀ a ∈ as, Separates text a)
    (same : following close (as.map text) ++ r = following close (bs.map text) ++ s) :
    as = bs ∧ r = s := by
  induction as generalizing bs with
  | nil =>
    cases bs with
    | nil => exact ⟨rfl, (cons.inj same).2⟩
    | cons b bs => exact absurd (cons.inj same).1 apart
  | cons a as ih =>
    cases bs with
    | nil => exact absurd (cons.inj same).1.symm apart
    | cons b bs =>
      simp only [map_cons, following, cons_append, append_assoc, cons.injEq, true_and] at same
      obtain ⟨rfl, rest⟩ := separates a mem_cons_self b _ _ (following_stops bracket)
        (following_stops bracket) same
      obtain ⟨rfl, tail⟩ := ih (fun a later => separates a (mem_cons_of_mem _ later)) rest
      exact ⟨rfl, tail⟩

/-- Sequences in brackets are told apart if their items are and none begins as the bracket does. -/
theorem enclosed_separates {as bs : List α} {r s : List Char} (bracket : Stops [close])
    (apart : close ≠ ',') (open_ : ∀ a, ∀ rest, text a ++ rest ≠ close :: r ∧ text a ++ rest ≠ close :: s)
    (separates : ∀ a ∈ as, Separates text a)
    (same : enclosed close (as.map text) ++ r = enclosed close (bs.map text) ++ s) :
    as = bs ∧ r = s := by
  cases as with
  | nil =>
    cases bs with
    | nil => exact ⟨rfl, (cons.inj same).2⟩
    | cons b bs =>
      rw [map_cons, enclosed, append_assoc] at same
      exact absurd same.symm (open_ b _).1
  | cons a as =>
    cases bs with
    | nil =>
      rw [map_cons, enclosed, append_assoc] at same
      exact absurd same (open_ a _).2
    | cons b bs =>
      simp only [map_cons, enclosed, append_assoc] at same
      obtain ⟨rfl, rest⟩ := separates a mem_cons_self b _ _ (following_stops bracket)
        (following_stops bracket) same
      obtain ⟨rfl, tail⟩ := following_separates bracket apart
        (fun a later => separates a (mem_cons_of_mem _ later)) rest
      exact ⟨rfl, tail⟩

end Separation

section Trees

/-- What the first character of a text says of the value. -/
def leads (c : Char) : JsonTree → Prop
  | null => c = 'n'
  | bool true => c = 't'
  | bool false => c = 'f'
  | int _ => c = '-' ∨ c.isDigit = true
  | str _ => c = '"'
  | list _ => c = '['
  | dict _ => c = '\x7b'

theorem intText_leads (i : Int) : ∃ c rest, intText i = c :: rest ∧ (c = '-' ∨ c.isDigit = true) := by
  unfold intText
  split
  · exact ⟨'-', _, rfl, .inl rfl⟩
  · cases digits : Nat.toDigits 10 i.natAbs with
    | nil => exact absurd digits Nat.toDigits_ne_nil
    | cons c rest =>
      exact ⟨c, rest, rfl, .inr <|
        Nat.isDigit_of_mem_toDigits (by decide) (by decide) (digits ▸ mem_cons_self)⟩

theorem text_leads (tree : JsonTree) : ∃ c rest, tree.text = c :: rest ∧ leads c tree := by
  cases tree with
  | null => exact ⟨'n', _, rfl, rfl⟩
  | bool value => cases value <;> exact ⟨_, _, rfl, rfl⟩
  | int value => exact intText_leads value
  | str value => exact ⟨'"', _, rfl, rfl⟩
  | list items => exact ⟨'[', _, text_list items, rfl⟩
  | dict items => exact ⟨'\x7b', _, text_dict items, rfl⟩

/-- Only values of one kind begin with the same character. -/
theorem ctorIdx_of_leads {c : Char} {a b : JsonTree} (first : leads c a) (second : leads c b) :
    a.ctorIdx = b.ctorIdx := by
  have digit (c : Char) (alike : c = '-' ∨ c.isDigit = true) :
      c ≠ 'n' ∧ c ≠ 't' ∧ c ≠ 'f' ∧ c ≠ '"' ∧ c ≠ '[' ∧ c ≠ '\x7b' := by
    refine ⟨?_, ?_, ?_, ?_, ?_, ?_⟩ <;> rintro rfl <;> revert alike <;> decide
  have kinds (tree : JsonTree) (begins : leads c tree) :
      tree.ctorIdx = if c = 'n' then 0 else if c = 't' ∨ c = 'f' then 1
        else if c = '"' then 3 else if c = '[' then 4 else if c = '\x7b' then 5 else 2 := by
    cases tree with
    | int value =>
      obtain ⟨n, t, f, quoted, bracket, brace⟩ := digit c begins
      rw [if_neg n, if_neg (not_or.mpr ⟨t, f⟩), if_neg quoted, if_neg bracket, if_neg brace]
      rfl
    | bool value => cases value <;> rw [leads] at begins <;> subst begins <;> rfl
    | _ => rw [leads] at begins; subst begins; rfl
  rw [kinds a first, kinds b second]

theorem text_cons_ne {close : Char} (bracket : close = ']' ∨ close = '\x7d') (tree : JsonTree)
    (rest tail : List Char) : tree.text ++ rest ≠ close :: tail := by
  obtain ⟨c, more, begins, leads⟩ := text_leads tree
  rw [begins, cons_append]
  intro same
  obtain ⟨rfl, -⟩ := cons.inj same
  cases tree with
  | bool value => rcases bracket with rfl | rfl <;> cases value <;> revert leads <;> simp [JsonTree.leads]
  | int value => rcases bracket with rfl | rfl <;> revert leads <;> simp [JsonTree.leads]
  | _ => rcases bracket with rfl | rfl <;> revert leads <;> simp [JsonTree.leads]

theorem memberText_separates {key : String} {tree : JsonTree} (value : Separates text tree) :
    Separates (fun member : String × JsonTree => memberText member.1 member.2.text) (key, tree) := by
  rintro ⟨key', tree'⟩ r s first second same
  simp only [memberText, append_assoc] at same
  obtain ⟨rfl, rest⟩ := quote_separates same
  obtain ⟨rfl, tail⟩ := value tree' r s first second (cons.inj rest).2
  exact ⟨rfl, tail⟩

/-- A tree is told from its text, whatever stops it: by induction on the tree. -/
theorem text_separates (tree : JsonTree) : Separates text tree := by
  refine Hereditary.every (P := Separates text) ?_ tree
  intro a children b r s first second same
  obtain ⟨c, rest, begins, leads⟩ := text_leads a
  obtain ⟨d, rest', begins', leads'⟩ := text_leads b
  have chars : c :: (rest ++ r) = d :: (rest' ++ s) := by
    simpa only [begins, begins', cons_append] using same
  obtain ⟨rfl, tails⟩ := cons.inj chars
  have kind := ctorIdx_of_leads leads leads'
  cases a with
  | null =>
    cases b with
    | null => exact ⟨rfl, append_cancel_left same⟩
    | _ => cases kind
  | bool value =>
    cases b with
    | bool other =>
      cases value <;> cases other
      · exact ⟨rfl, append_cancel_left same⟩
      · exact absurd (cons.inj same).1 (by decide)
      · exact absurd (cons.inj same).1 (by decide)
      · exact ⟨rfl, append_cancel_left same⟩
    | _ => cases kind
  | int value =>
    cases b with
    | int other =>
      obtain ⟨rfl, tail⟩ := intText_separates first second same
      exact ⟨rfl, tail⟩
    | _ => cases kind
  | str value =>
    cases b with
    | str other =>
      obtain ⟨rfl, tail⟩ := quote_separates same
      exact ⟨rfl, tail⟩
    | _ => cases kind
  | list items =>
    cases b with
    | list others =>
      simp only [text_list, cons_append, cons.injEq, true_and] at same
      obtain ⟨rfl, tail⟩ := enclosed_separates (by simp) (by decide)
        (fun item rest => ⟨text_cons_ne (.inl rfl) item rest r, text_cons_ne (.inl rfl) item rest s⟩)
        children same
      exact ⟨rfl, tail⟩
    | _ => cases kind
  | dict items =>
    cases b with
    | dict others =>
      simp only [text_dict, cons_append, cons.injEq, true_and] at same
      have quoted (member : String × JsonTree) (rest tail : List Char) :
          memberText member.1 member.2.text ++ rest ≠ '\x7d' :: tail := by
        intro same
        exact absurd (cons.inj same).1 (by decide)
      obtain ⟨rfl, tail⟩ := enclosed_separates (by simp) (by decide)
        (fun member rest => ⟨quoted member rest r, quoted member rest s⟩)
        (fun member among => memberText_separates (children _ (mem_map_of_mem among))) same
      exact ⟨rfl, tail⟩
    | _ => cases kind

theorem text_injective : Function.Injective text := fun a b same =>
  (text_separates a b [] [] stops_nil stops_nil (congrArg (· ++ []) same)).1

end Trees

section Equality

/-- Equal, whatever the order of the keys of any dictionary. -/
def Same (a b : JsonTree) : Prop := a.sortKeys = b.sortKeys

theorem same_list_iff {xs ys : List JsonTree} : (list xs).Same (list ys) ↔ Forall₂ Same xs ys := by
  rw [Same, sortKeys_list, sortKeys_list, list.injEq, ← forall₂_eq_eq_eq, forall₂_map_left_iff,
    forall₂_map_right_iff]
  rfl

/-- Two trees have one text if and only if they are equal up to the order of their keys. -/
theorem dumps_eq_iff (a b : JsonTree) : a.dumps = b.dumps ↔ a.Same b :=
  ⟨fun same => text_injective (String.ofList_injective same), fun same => by rw [dumps, dumps, same]⟩

end Equality

end JsonTree
