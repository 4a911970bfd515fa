import StorageInventory.Json.Printer
import StorageInventory.Json.Reader
import StorageInventory.Proofs.Number.Digits

/-!
# Strings and numbers of JSON

What is printed for a string is read as that string (`Json.text?_escaped`), and what is printed for
a whole number as that number (`Json.number?_intChars`), whatever follows a closing quote, and
whatever stops a number behind its last digit.
-/

namespace StorageInventory.Json
variable {rest : List Char}

/-! ## Strings -/

/-- Four digits are one unit, whatever follows them. -/
theorem unit?_append (hlength : ds.length = 4) (hds : Numeral.digits? 16 ds = some n)
    (rest : List Char) : unit? (ds ++ rest) = some (n, rest) := by
  have htake : (ds ++ rest).take 4 = ds := hlength ▸ List.take_left
  have hdrop : (ds ++ rest).drop 4 = rest := hlength ▸ List.drop_left
  have hlong : ¬ (ds ++ rest).length < 4 := by
    rw [List.length_append, hlength]
    omega
  rw [unit?, htake, hds, hdrop]
  exact if_neg hlong

/-- A unit below the surrogates is the character itself. -/
theorem codePoint?_digits (h : n < 0xD800) (rest : List Char) :
    codePoint? (Numeral.padStart 4 '0' (Nat.toDigits 16 n) ++ rest) =
      some (some (Char.ofNat n), rest) := by
  have hlength := Numeral.length_padStart (by decide : 1 < 16) (by decide : 0 < 4)
    (Nat.lt_trans h (by decide))
  rw [codePoint?, unit?_append hlength (Numeral.digits?_padStart (by decide) (by decide) 4 n)]
  simp [h]

theorem escape_length_pos (c : Char) : 0 < (escape c).length := by
  unfold escape
  repeat' split
  all_goals exact Nat.succ_pos _

/-- Quoting does not shorten a text, so its length is enough fuel for what it holds. -/
theorem length_le_quotedChars (s : String) : s.toList.length + 2 ≤ (quotedChars s).length := by
  have hchars : s.toList.length ≤ (s.toList.flatMap escape).length := by
    induction s.toList with
    | nil => exact Nat.le_refl 0
    | cons c cs ih =>
      have hc := escape_length_pos c
      rw [List.flatMap_cons, List.length_append, List.length_cons]
      omega
  rw [quotedChars, List.length_append, List.length_cons, List.length_singleton]
  omega

theorem quotedChars_append (s : String) (rest : List Char) :
    quotedChars s ++ rest = '"' :: (s.toList.flatMap escape ++ '"' :: rest) := by
  rw [quotedChars, List.cons_append, List.cons_append, List.append_assoc, List.singleton_append]

/-- One step reads what is printed for one character. -/
theorem string?_escape (c : Char) (budget : Nat) (soFar rest : List Char) :
    string? (budget + 1) (some soFar) (escape c ++ rest) =
      string? budget (some (c :: soFar)) rest := by
  unfold escape
  split
  · subst c; rfl
  split
  · subst c; rfl
  split
  · subst c; rfl
  split
  · subst c; rfl
  split
  · subst c; rfl
  split
  · subst c; rfl
  split
  · subst c; rfl
  split
  · rename_i hcontrol
    have hcode := codePoint?_digits (Nat.lt_trans hcontrol (by decide)) rest
    simp [string?, hcode]
  · rename_i hquote hbackslash _ _ _ _ _ hcontrol
    simp [string?, hquote, hbackslash, hcontrol]

/-- A text is read back from its escapes, up to the quote behind them. -/
theorem string?_escaped (h : s.length < budget) (soFar rest : List Char) :
    string? budget (some soFar) (s.flatMap escape ++ '"' :: rest) =
      some (some (soFar.reverse ++ s), rest) := by
  -- A character takes one step of the budget, however long its escape is.
  induction s generalizing budget soFar with
  | nil =>
    cases budget with
    | zero => cases h
    | succ budget => simp [string?]
  | cons c s ih =>
    cases budget with
    | zero => cases h
    | succ budget =>
      rw [List.flatMap_cons, List.append_assoc, string?_escape, ih (Nat.lt_of_succ_lt_succ h),
        List.reverse_cons, List.append_assoc]
      rfl

/-- The characters of a string and its closing quote are read as the string. -/
theorem text?_escaped {s : String} (h : s.toList.length < budget) (rest : List Char) :
    text? budget (s.toList.flatMap escape ++ '"' :: rest) = some (some s, rest) := by
  rw [text?, string?_escaped h]
  simp

/-! ## Numbers -/

/-- Whether a character ends a number: what stands between tokens, behind an item or at the end of a
list. -/
def isStop (c : Char) : Bool := isSpace c || c == ',' || c == ']' || c == '\x7d'

/-- A text that ends a number in front of it. -/
def Stops (rest : List Char) : Prop := ∀ c ∈ rest.head?, isStop c = true

theorem Stops.cons (h : isStop c = true) (rest : List Char) : Stops (c :: rest) := by
  rintro _ ⟨⟩
  exact h

theorem isStop_cases (h : isStop c = true) :
    c = ' ' ∨ c = '\n' ∨ c = '\t' ∨ c = '\r' ∨ c = ',' ∨ c = ']' ∨ c = '\x7d' := by
  simpa [isStop, isSpace, or_assoc] using h

/-- A number that stops has no fraction. -/
theorem Stops.fraction? (h : Stops rest) : fraction? rest = some (false, rest) := by
  unfold Json.fraction?
  split
  · have hpoint := h '.' rfl
    cases hpoint
  · rfl

theorem Stops.power? (h : Stops rest) : power? rest = some (false, rest) := by
  cases rest with
  | nil => rfl
  | cons c cs =>
    have hpower : ¬ (c = 'e' ∨ c = 'E') := by
      rintro (rfl | rfl) <;> cases h _ rfl
    unfold Json.power?
    exact if_neg hpower

theorem Stops.head_isDigit (h : Stops rest) : rest.head?.any Char.isDigit = false := by
  cases rest with
  | nil => rfl
  | cons c cs =>
    rcases isStop_cases (h c rfl) with rfl | rfl | rfl | rfl | rfl | rfl | rfl <;> rfl

theorem Stops.takeWhile_isDigit (h : Stops rest) : rest.takeWhile Char.isDigit = [] := by
  cases rest with
  | nil => rfl
  | cons c cs =>
    have hc : c.isDigit = false := h.head_isDigit
    rw [List.takeWhile_cons_of_neg (Bool.not_eq_true _ ▸ hc)]

theorem digits?_append (hne : ds ≠ []) (hds : ∀ c ∈ ds, c.isDigit = true) (h : Stops rest) :
    digits? (ds ++ rest) = some (ds, rest) := by
  have htake : (ds ++ rest).takeWhile Char.isDigit = ds := by
    rw [List.takeWhile_append_of_pos hds, h.takeWhile_isDigit, List.append_nil]
  rw [digits?, htake, List.isEmpty_eq_false_iff.mpr hne, List.drop_left]
  rfl

/-- The digits of a number are read back; a zero in front is the number zero. -/
theorem whole?_toDigits (n : Nat) (h : Stops rest) :
    whole? (Nat.toDigits 10 n ++ rest) = some (Nat.toDigits 10 n, rest) := by
  by_cases hn : n = 0
  · subst hn
    rw [Nat.toDigits_zero, List.singleton_append, whole?, h.head_isDigit]
    rfl
  · obtain ⟨d, ds, hds, -⟩ := Numeral.toDigits_first n
    have hd : d ≠ '0' := by
      rintro rfl
      exact hn (Numeral.eq_zero_of_toDigits (by rw [hds]; rfl))
    have hdigits : digits? (Nat.toDigits 10 n ++ rest) = some (Nat.toDigits 10 n, rest) :=
      digits?_append Nat.toDigits_ne_nil
        (fun _ => Nat.isDigit_of_mem_toDigits (by decide) (by decide)) h
    unfold whole?
    split
    · rename_i cs hcs
      rw [hds] at hcs
      cases hcs
      exact absurd rfl hd
    · exact hdigits

/-- A whole number is read back with its sign, which zero does not have. -/
theorem unsigned?_toDigits {negative : Bool} (hn : negative = true → n ≠ 0) (h : Stops rest) :
    unsigned? negative (Nat.toDigits 10 n ++ rest) =
      some (.int (if negative then -(n : Int) else n), rest) := by
  have hzero : (negative && n == 0) = false := by
    rw [Bool.and_eq_false_imp]
    exact fun hnegative => beq_eq_false_iff_ne.mpr (hn hnegative)
  simp only [unsigned?, whole?_toDigits n h, h.fraction?, h.power?,
    Numeral.digits?_toDigits (by decide : 1 < 10) (by decide), Option.bind_eq_bind,
    Option.bind_some, hzero, Bool.or_self, Bool.false_eq_true, if_false]
  rfl

/-- The characters of a whole number are read as the number. -/
theorem number?_intChars (n : Int) (h : Stops rest) :
    number? (intChars n ++ rest) = some (.int n, rest) := by
  cases n with
  | ofNat n =>
    obtain ⟨d, ds, hds, hd⟩ := Numeral.toDigits_first n
    have hchars : intChars (.ofNat n) = Nat.toDigits 10 n := rfl
    rw [hchars]
    unfold number?
    split
    · rename_i cs hcs
      rw [hds] at hcs
      cases hcs
      cases hd
    · exact unsigned?_toDigits (fun h => (nomatch h)) h
  | negSucc n =>
    rw [intChars, List.cons_append, number?, unsigned?_toDigits (fun _ => Nat.succ_ne_zero n) h]
    rfl

end StorageInventory.Json
