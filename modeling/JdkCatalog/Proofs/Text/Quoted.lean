import JdkCatalog.Proofs.Text.Delimited
import JdkCatalog.Text.Quoted
import JdkCatalog.Toml.Quoted

/-!
# Quoted texts read back

What stands between the quotes determines the text, whatever comes after the closing
quote.  Nothing in the library reads such texts, so a reader is written here: it undoes
the escapes one by one (`unescape?_quotedChar`) and stops at the quote.
`quoted_append_inj` is the result.
-/

namespace JdkCatalog.Text

/-! ## Hexadecimal digits -/

theorem hexValue_digitChar : ∀ d < 16, Toml.hexValue (Nat.digitChar d) = d := by decide

theorem digitsValue_toDigits (n : Nat) : Toml.digitsValue 16 (Nat.toDigits 16 n) = n := by
  induction n using Nat.strongRecOn with
  | _ n ih =>
    rw [Nat.toDigits_eq_if (by decide)]
    split
    next hlt => simp [Toml.digitsValue, hexValue_digitChar n hlt]
    next hge =>
      have hfront := ih (n / 16) (by omega)
      rw [Toml.digitsValue] at hfront ⊢
      rw [List.foldl_append, hfront, List.foldl_cons, List.foldl_nil,
        hexValue_digitChar _ (Nat.mod_lt _ (by decide)), Nat.mul_comm]
      exact Nat.div_add_mod n 16

theorem ne_brace_of_mem_toDigits (n : Nat) : ∀ c ∈ Nat.toDigits 16 n, (c != '\x7d') = true := by
  have hdigit : ∀ d < 16, (Nat.digitChar d != '\x7d') = true := by decide
  induction n using Nat.strongRecOn with
  | _ n ih =>
    rw [Nat.toDigits_eq_if (by decide)]
    split
    next hlt => exact List.forall_mem_singleton.mpr (hdigit n hlt)
    next hge =>
      rw [List.forall_mem_append, List.forall_mem_singleton]
      exact ⟨ih (n / 16) (by omega), hdigit _ (Nat.mod_lt _ (by decide))⟩

/-! ## Characters -/

/-- The character that is written at the front of a text, and what follows it; nothing at
the closing quote. -/
def unescape? : List Char → Option (Char × List Char)
  | '\\' :: '0' :: rest => some ('\x00', rest)
  | '\\' :: 't' :: rest => some ('\t', rest)
  | '\\' :: 'n' :: rest => some ('\n', rest)
  | '\\' :: 'r' :: rest => some ('\r', rest)
  | '\\' :: '"' :: rest => some ('"', rest)
  | '\\' :: '\\' :: rest => some ('\\', rest)
  | '\\' :: 'u' :: '\x7b' :: rest =>
    some (Char.ofNat (Toml.digitsValue 16 (rest.takeWhile (· != '\x7d'))),
      (rest.dropWhile (· != '\x7d')).tail)
  | '"' :: _ => none
  | c :: rest => some (c, rest)
  | [] => none

theorem unescape?_quotedChar (c : Char) (rest : List Char) :
    unescape? (quotedChar c ++ rest) = some (c, rest) := by
  unfold quotedChar
  split
  case h_7 hquote hbackslash =>
    split
    · simp_all [unescape?]
    · have hbrace : NoneAhead (· != '\x7d') ('\x7d' :: rest) := noneAhead_cons.mpr rfl
      have hdigits := ne_brace_of_mem_toDigits c.toNat
      have htext : ['\\', 'u', '\x7b'] ++ Nat.toDigits 16 c.toNat ++ ['\x7d'] ++ rest =
          '\\' :: 'u' :: '\x7b' :: (Nat.toDigits 16 c.toNat ++ '\x7d' :: rest) := by
        simp
      rw [htext, unescape?, takeWhile_append_of_noneAhead hdigits hbrace,
        dropWhile_append_of_noneAhead hdigits hbrace, digitsValue_toDigits, Char.ofNat_toNat]
      rfl
  all_goals rfl

/-! ## Texts -/

theorem flatMap_quotedChar_append_inj {cs ds r s : List Char}
    (h : cs.flatMap quotedChar ++ '"' :: r = ds.flatMap quotedChar ++ '"' :: s) :
    cs = ds ∧ r = s := by
  have hquote (rest : List Char) : unescape? ('"' :: rest) = none := rfl
  induction cs generalizing ds with
  | nil =>
    cases ds with
    | nil => exact ⟨rfl, List.tail_eq_of_cons_eq h⟩
    | cons d ds =>
      rw [List.flatMap_nil, List.nil_append, List.flatMap_cons, List.append_assoc] at h
      cases (hquote r).symm.trans (h ▸ unescape?_quotedChar d _)
  | cons c cs ih =>
    rw [List.flatMap_cons, List.append_assoc] at h
    have hc := unescape?_quotedChar c (cs.flatMap quotedChar ++ '"' :: r)
    rw [h] at hc
    cases ds with
    | nil => cases (hquote s).symm.trans hc
    | cons d ds =>
      rw [List.flatMap_cons, List.append_assoc, unescape?_quotedChar] at hc
      obtain ⟨rfl, hrest⟩ := Prod.mk.inj (Option.some.inj hc)
      obtain ⟨rfl, rfl⟩ := ih hrest.symm
      exact ⟨rfl, rfl⟩

theorem toList_quoted (s : String) :
    (quoted s).toList = '"' :: (s.toList.flatMap quotedChar ++ ['"']) := by
  simp [quoted]

/-- A quoted text ends where its text does. -/
theorem quoted_append_inj {a b : String} {r s : List Char}
    (h : (quoted a).toList ++ r = (quoted b).toList ++ s) : a = b ∧ r = s := by
  rw [toList_quoted, toList_quoted, List.cons_append, List.cons_append, List.append_assoc,
    List.append_assoc] at h
  obtain ⟨hab, hrs⟩ := flatMap_quotedChar_append_inj (List.tail_eq_of_cons_eq h)
  exact ⟨String.toList_inj.mp hab, hrs⟩

end JdkCatalog.Text
