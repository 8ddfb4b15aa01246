import Mathlib.Data.List.DropRight
import ExchangeRouter.Lib.Json

/-!
# Texts of values, and the cutting of texts

What `str(value)` writes for a decoded value, and the search, strip and split
methods that read such a text again.  Texts are lists of characters here.
-/
namespace ExchangeRouter.Lib

def apostrophe : Char := Char.ofNat 39

def quotationMark : Char := Char.ofNat 34

def backslash : Char := Char.ofNat 92

/-- The characters of `str.isspace`. -/
def isSpace (c : Char) : Bool :=
  let n := c.toNat
  9 ≤ n && n ≤ 13 || 28 ≤ n && n ≤ 32 || n = 133 || n = 160 || n = 5760 ||
    8192 ≤ n && n ≤ 8202 || n = 8232 || n = 8233 || n = 8239 || n = 8287 || n = 12288

/-- How numbers are written, and which characters stand for themselves. -/
structure Writing where
  number : ℚ → String
  printable : Char → Bool

namespace Writing
variable (writing : Writing)

def hexDigit (n : ℕ) : Char := "0123456789abcdef".toList.getD n '0'

/-- The last `digits` hexadecimal digits of a number. -/
def hex : ℕ → ℕ → List Char
  | 0, _ => []
  | digits + 1, n => hex digits (n / 16) ++ [hexDigit (n % 16)]

def escaped (c : Char) : List Char :=
  let n := c.toNat
  if n ≤ 255 then 'x' :: hex 2 n
  else if n ≤ 65535 then 'u' :: hex 4 n
  else 'U' :: hex 8 n

/-- A character inside of a quoted text. -/
def quoted (quote c : Char) : List Char :=
  if c = quote ∨ c = backslash then [backslash, c]
  else if c.toNat = 9 then [backslash, 't']
  else if c.toNat = 10 then [backslash, 'n']
  else if c.toNat = 13 then [backslash, 'r']
  else if 32 ≤ c.toNat ∧ c.toNat ≤ 126 ∨ 127 < c.toNat ∧ writing.printable c = true then [c]
  else backslash :: escaped c

def quoteOf (text : List Char) : Char :=
  if apostrophe ∈ text ∧ quotationMark ∉ text then quotationMark else apostrophe

def reprText (text : List Char) : List Char :=
  let quote := quoteOf text
  quote :: text.flatMap (writing.quoted quote) ++ [quote]

/-- The parts with a comma and a blank between them. -/
def joined : List (List Char) → List Char
  | [] => []
  | [part] => part
  | part :: next :: rest => part ++ ", ".toList ++ joined (next :: rest)

mutual
/-- `repr(value)`. -/
def repr : Json → List Char
  | .null => "None".toList
  | .bool b => if b then "True".toList else "False".toList
  | .num q => (writing.number q).toList
  | .str s => writing.reprText s.toList
  | .arr items => '[' :: joined (reprItems items) ++ [']']
  | .obj fields => Char.ofNat 123 :: joined (reprFields fields) ++ [Char.ofNat 125]

def reprItems : List Json → List (List Char)
  | [] => []
  | value :: rest => repr value :: reprItems rest

def reprFields : List (String × Json) → List (List Char)
  | [] => []
  | (key, value) :: rest =>
    (writing.reprText key.toList ++ ": ".toList ++ repr value) :: reprFields rest
end

/-- `str(value)`. -/
def str : Json → List Char
  | .str s => s.toList
  | value => writing.repr value

end Writing

/-- What stands behind the first occurrence of `part`, as `text.split(part, 1)[1]` gives it. -/
def afterFirst (part : List Char) : List Char → Option (List Char)
  | [] => none
  | c :: rest =>
    if part.isPrefixOf (c :: rest) then some ((c :: rest).drop part.length)
    else afterFirst part rest

/-- `part in text`. -/
def occursIn (part text : List Char) : Bool := (afterFirst part text).isSome

/-- `text.rstrip(chars)`. -/
def rstrip (chars text : List Char) : List Char := text.rdropWhile fun c => c ∈ chars

/-- `text.strip()`. -/
def strip (text : List Char) : List Char := (text.dropWhile isSpace).rdropWhile isSpace

/-- `text.split()[0]`, which raises on a blank text. -/
def firstWord (text : List Char) : Option (List Char) :=
  match text.dropWhile isSpace with
  | [] => none
  | c :: rest => some ((c :: rest).takeWhile fun c => !isSpace c)

/-! ## Searching -/

variable {part front rest : List Char}

theorem afterFirst_of_occurs (nonempty : part ≠ []) :
    afterFirst part (part ++ rest) = some rest := by
  cases part with
  | nil => exact absurd rfl nonempty
  | cons c part => simp [afterFirst]

/-- Characters that the part does not begin with are passed over. -/
theorem afterFirst_append {first : Char} (others : ∀ c ∈ front, c ≠ first) :
    afterFirst (first :: part) (front ++ rest) = afterFirst (first :: part) rest := by
  induction front with
  | nil => rfl
  | cons c front ih =>
    have apart : ¬ first = c := fun same => others c List.mem_cons_self same.symm
    simp only [List.cons_append, afterFirst, List.isPrefixOf, beq_iff_eq, apart, Bool.and_eq_true,
      false_and, if_false]
    exact ih fun c member => others c (List.mem_cons_of_mem _ member)

/-! ## Searching in quoted texts -/

section Quoted
variable (writing : Writing) {quote : Char}

/-- The characters that are written as themselves, whatever the quote is. -/
def Plain (c : Char) : Prop :=
  32 ≤ c.toNat ∧ c.toNat ≤ 126 ∧ c ≠ apostrophe ∧ c ≠ quotationMark ∧ c ≠ backslash

instance decidablePlain (c : Char) : Decidable (Plain c) := inferInstanceAs (Decidable (_ ∧ _))

theorem plain_of_all {text : List Char} (all : text.all (fun c => decide (Plain c)) = true) :
    ∀ c ∈ text, Plain c :=
  fun c member => of_decide_eq_true (List.all_eq_true.mp all c member)

theorem plain_ne_quoteOf {c : Char} (plain : Plain c) (text : List Char) :
    c ≠ Writing.quoteOf text := by
  unfold Writing.quoteOf
  split
  · exact plain.2.2.2.1
  · exact plain.2.2.1

theorem quoted_plain {c : Char} (plain : Plain c) (apart : c ≠ quote) :
    writing.quoted quote c = [c] := by
  obtain ⟨above, below, -, -, slash⟩ := plain
  unfold Writing.quoted
  rw [if_neg (not_or.mpr ⟨apart, slash⟩), if_neg (by omega), if_neg (by omega), if_neg (by omega),
    if_pos (.inl ⟨above, below⟩)]

/-- The characters behind a backslash. -/
def escapes : List Char := "tnrxuU0123456789abcdef".toList

theorem hex_subset (digits n : ℕ) : ∀ c ∈ Writing.hex digits n, c ∈ escapes := by
  induction digits generalizing n with
  | zero => simp [Writing.hex]
  | succ digits ih =>
    intro c member
    rw [Writing.hex, List.mem_append, List.mem_singleton] at member
    rcases member with before | rfl
    · exact ih _ c before
    · have all : ∀ d < 16, Writing.hexDigit d ∈ escapes := by decide
      exact all _ (Nat.mod_lt n (by decide))

theorem escaped_subset (c : Char) : ∀ d ∈ Writing.escaped c, d ∈ escapes := by
  unfold Writing.escaped
  intro d member
  dsimp only at member
  split at member
  · rcases List.mem_cons.mp member with rfl | digit
    · decide
    · exact hex_subset _ _ d digit
  · split at member
    all_goals
      rcases List.mem_cons.mp member with rfl | digit
      · decide
      · exact hex_subset _ _ d digit

/-- A character is written as itself, or with a backslash. -/
theorem quoted_cases (quote c : Char) : writing.quoted quote c = [c] ∨
    ∃ behind, writing.quoted quote c = backslash :: behind ∧
      ∀ d ∈ behind, d = quote ∨ d = backslash ∨ d ∈ escapes := by
  have one : ∀ d ∈ escapes, ∀ e ∈ [d], e = quote ∨ e = backslash ∨ e ∈ escapes := by
    intro d escape e member
    rw [List.mem_singleton] at member
    exact .inr (.inr (member ▸ escape))
  unfold Writing.quoted
  split_ifs with special
  · exact .inr ⟨[c], rfl, by simpa using special.imp_right .inl⟩
  · exact .inr ⟨_, rfl, one 't' (by decide)⟩
  · exact .inr ⟨_, rfl, one 'n' (by decide)⟩
  · exact .inr ⟨_, rfl, one 'r' (by decide)⟩
  · exact .inl rfl
  · exact .inr ⟨_, rfl, fun d member => .inr (.inr (escaped_subset c d member))⟩

theorem quoted_eq_plain {text : List Char} (plain : ∀ c ∈ text, Plain c) (apart : quote ∉ text) :
    text.flatMap (writing.quoted quote) = text := by
  induction text with
  | nil => rfl
  | cons c text ih =>
    rw [List.flatMap_cons, quoted_plain writing (plain c List.mem_cons_self)
        fun same => apart (same ▸ List.mem_cons_self),
      ih (fun d member => plain d (List.mem_cons_of_mem _ member))
        fun inside => apart (List.mem_cons_of_mem _ inside), List.singleton_append]

/-- A plain part at the start of a quoted text is at the start of the text. -/
theorem prefix_of_quoted {part : List Char} (plain : ∀ c ∈ part, Plain c) (apart : quote ∉ part)
    {text : List Char} (found : part <+: text.flatMap (writing.quoted quote) ++ quote :: rest) :
    part <+: text := by
  induction part generalizing text with
  | nil => exact List.nil_prefix
  | cons a part ih =>
    have differs : a ≠ quote := fun same => apart (same ▸ List.mem_cons_self)
    cases text with
    | nil =>
      rw [List.flatMap_nil, List.nil_append, List.cons_prefix_cons] at found
      exact absurd found.1 differs
    | cons c text =>
      rw [List.flatMap_cons] at found
      rcases quoted_cases writing quote c with itself | ⟨behind, written, -⟩
      · rw [itself, List.singleton_append, List.cons_append, List.cons_prefix_cons] at found
        rw [List.cons_prefix_cons]
        exact ⟨found.1, ih (fun d member => plain d (List.mem_cons_of_mem _ member))
          (fun inside => apart (List.mem_cons_of_mem _ inside)) found.2⟩
      · rw [written, List.cons_append, List.cons_append, List.cons_prefix_cons] at found
        exact absurd found.1 (plain a List.mem_cons_self).2.2.2.2

/-- A plain part that is not in a text is not found in its quotation. -/
theorem afterFirst_quoted {first : Char} {part text : List Char}
    (plain : ∀ c ∈ first :: part, Plain c) (apart : quote ∉ first :: part)
    (letter : first ∉ escapes) (absent : ¬ first :: part <:+: text) :
    afterFirst (first :: part) (text.flatMap (writing.quoted quote) ++ quote :: rest) =
      afterFirst (first :: part) rest := by
  have differs : first ≠ quote := fun same => apart (same ▸ List.mem_cons_self)
  have slash : first ≠ backslash := (plain first List.mem_cons_self).2.2.2.2
  induction text with
  | nil =>
    have others : ∀ c ∈ [quote], c ≠ first := by simpa using differs.symm
    exact afterFirst_append others
  | cons c text ih =>
    have later := ih fun inside => absent (inside.trans (List.suffix_cons c text).isInfix)
    rw [List.flatMap_cons, List.append_assoc]
    rcases quoted_cases writing quote c with itself | ⟨behind, written, escape⟩
    · have missing : ¬ (first :: part).isPrefixOf (c :: (text.flatMap (writing.quoted quote) ++
          quote :: rest)) = true := by
        rw [List.isPrefixOf_iff_prefix]
        intro found
        have whole : first :: part <+: (c :: text).flatMap (writing.quoted quote) ++
            quote :: rest := by
          rw [List.flatMap_cons, itself, List.append_assoc]
          exact found
        exact absent (prefix_of_quoted writing plain apart whole).isInfix
      rw [itself, List.singleton_append, afterFirst, if_neg missing]
      exact later
    · have others : ∀ d ∈ backslash :: behind, d ≠ first := by
        intro d member same
        subst same
        rcases List.mem_cons.mp member with rfl | inside
        · exact slash rfl
        · rcases escape d inside with rfl | rfl | listed
          · exact differs rfl
          · exact slash rfl
          · exact letter listed
      rw [written, afterFirst_append others]
      exact later

theorem afterFirst_reprText {first : Char} {part text : List Char}
    (plain : ∀ c ∈ first :: part, Plain c) (letter : first ∉ escapes)
    (absent : ¬ first :: part <:+: text) :
    afterFirst (first :: part) (writing.reprText text ++ rest) =
      afterFirst (first :: part) rest := by
  have apart : Writing.quoteOf text ∉ first :: part :=
    fun inside => plain_ne_quoteOf (plain _ inside) _ rfl
  have quote : ∀ c ∈ [Writing.quoteOf text], c ≠ first := by
    intro c member same
    exact apart (List.mem_singleton.mp member ▸ same ▸ List.mem_cons_self)
  calc afterFirst (first :: part) (writing.reprText text ++ rest)
    _ = afterFirst (first :: part) ([Writing.quoteOf text] ++
          (text.flatMap (writing.quoted (Writing.quoteOf text)) ++
            Writing.quoteOf text :: rest)) := by simp [Writing.reprText]
    _ = afterFirst (first :: part) (text.flatMap (writing.quoted (Writing.quoteOf text)) ++
          Writing.quoteOf text :: rest) := afterFirst_append quote
    _ = afterFirst (first :: part) rest := afterFirst_quoted writing plain apart letter absent

end Quoted

/-! ## Lists of texts -/

theorem joined_append {fronts back : List (List Char)} {entry : List Char} :
    Writing.joined (fronts ++ entry :: back) =
      fronts.flatMap (fun part => part ++ ", ".toList) ++ entry ++
        (if back = [] then [] else ", ".toList ++ Writing.joined back) := by
  induction fronts with
  | nil =>
    cases back with
    | nil => simp [Writing.joined]
    | cons next back => simp [Writing.joined]
  | cons part fronts ih =>
    rw [List.cons_append, List.flatMap_cons, List.append_assoc, List.append_assoc,
      ← List.append_assoc (fronts.flatMap _), ← ih]
    cases fronts with
    | nil => simp [Writing.joined]
    | cons next fronts => simp [Writing.joined]

theorem reprItems_append (writing : Writing) (front back : List Json) :
    writing.reprItems (front ++ back) = writing.reprItems front ++ writing.reprItems back := by
  induction front with
  | nil => rfl
  | cons value front ih => simp only [List.cons_append, Writing.reprItems, ih]

theorem reprItems_texts (writing : Writing) (texts : List String) :
    writing.reprItems (texts.map .str) = texts.map fun s => writing.reprText s.toList := by
  induction texts with
  | nil => rfl
  | cons s texts ih => simp only [List.map_cons, Writing.reprItems, Writing.repr, ih]

/-! ## Stripping and splitting -/

/-- Stripping on the right stops at the last character of a text that is kept. -/
theorem rdropWhile_append {p : Char → Bool} {kept : List Char} {last : Char}
    (stays : p last = false) (rest : List Char) :
    (kept ++ [last] ++ rest).rdropWhile p = kept ++ [last] ++ rest.rdropWhile p := by
  unfold List.rdropWhile
  rw [List.reverse_append, List.dropWhile_append]
  split
  · rename_i gone
    rw [List.reverse_append, List.reverse_singleton, List.singleton_append, List.dropWhile_cons,
      stays, List.isEmpty_iff.mp gone]
    simp
  · simp

end ExchangeRouter.Lib
