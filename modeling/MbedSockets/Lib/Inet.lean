import Mathlib.Tactic

/-!
Internet addresses as text. A text is a list of numerals in some base, joined
by a separator; the dotted quad of an IPv4 address and the colon-separated
groups of an IPv6 address are two instances. An address of `::ffff:0:0/96` is
written with a dotted quad at the end, as is usual; runs of zero groups are
written out. Reading undoes writing, and the texts fit their usual buffers.
-/

namespace MbedSockets.Lib.Inet

/-! ### Numerals -/

def charValue (c : Char) : Option Nat :=
  if '0' ≤ c ∧ c ≤ '9' then some (c.toNat - '0'.toNat)
  else if 'a' ≤ c ∧ c ≤ 'f' then some (c.toNat - 'a'.toNat + 10)
  else none

def digitValue (b : Nat) (c : Char) : Option Nat := (charValue c).filter (· < b)

/-- The value of a non-empty numeral, read from the left. -/
def readNat (b : Nat) (cs : List Char) : Option Nat :=
  if cs = [] then none
  else cs.foldlM (fun v c => (digitValue b c).map (b * v + ·)) 0

section numerals

variable {b : Nat} (hb : 1 < b) (hb16 : b ≤ 16)

include hb16 in
theorem digitValue_digitChar {d : Nat} (hd : d < b) : digitValue b d.digitChar = some d := by
  have hvalue : charValue d.digitChar = some d := by
    have hd16 : d < 16 := by omega
    interval_cases d <;> rfl
  rw [digitValue, hvalue, Option.filter_some, if_pos (by simpa using hd)]

include hb hb16

theorem foldlM_toDigits (m : Nat) :
    (Nat.toDigits b m).foldlM (fun v c => (digitValue b c).map (b * v + ·)) 0 = some m := by
  induction m using Nat.base_induction b hb with
  | single m hm => simp [Nat.toDigits_of_lt_base hm, digitValue_digitChar hb16 hm]
  | digit m k hk hm ih =>
      rw [← Nat.toDigits_append_toDigits hb hm hk, List.foldlM_append, ih,
        Nat.toDigits_of_lt_base hk]
      simp [digitValue_digitChar hb16 hk]

theorem readNat_toDigits (m : Nat) : readNat b (Nat.toDigits b m) = some m := by
  rw [readNat, if_neg Nat.toDigits_ne_nil, foldlM_toDigits hb hb16]

/-- A numeral has only digits in it, and so no separator. -/
theorem digitValue_of_mem_toDigits {m : Nat} {c : Char} (hc : c ∈ Nat.toDigits b m) :
    digitValue b c ≠ none := by
  induction m using Nat.base_induction b hb with
  | single m hm =>
      rw [Nat.toDigits_of_lt_base hm, List.mem_singleton] at hc
      simp [hc, digitValue_digitChar hb16 hm]
  | digit m k hk hm ih =>
      rw [← Nat.toDigits_append_toDigits hb hm hk, Nat.toDigits_of_lt_base hk] at hc
      rcases List.mem_append.mp hc with hleft | hright
      · exact ih hleft
      · rw [List.mem_singleton] at hright
        simp [hright, digitValue_digitChar hb16 hk]

end numerals

/-! ### Fields -/

section fields

variable (b : Nat) (sep : Char) (limit : Nat)

def showFields (xs : List Nat) : List Char := [sep].intercalate (xs.map (Nat.toDigits b))

/-- The fields of a text, each a numeral below `limit`. -/
def readFields (cs : List Char) : Option (List Nat) :=
  (cs.splitOn sep).mapM fun field => (readNat b field).filter (· < limit)

variable {b sep limit}

theorem readFields_showFields (hb : 1 < b) (hb16 : b ≤ 16) (hsep : digitValue b sep = none)
    {xs : List Nat} (hxs : xs ≠ []) (hlimit : ∀ x ∈ xs, x < limit) :
    readFields b sep limit (showFields b sep xs) = some xs := by
  have hfields : ∀ field ∈ xs.map (Nat.toDigits b), sep ∉ field := by
    intro field hfield hmem
    obtain ⟨x, _, rfl⟩ := List.mem_map.mp hfield
    exact digitValue_of_mem_toDigits hb hb16 hmem hsep
  rw [readFields, showFields, List.splitOn_intercalate sep hfields (by simpa using hxs)]
  clear hfields hxs
  induction xs with
  | nil => rfl
  | cons x xs ih =>
      have hrest := ih (fun y hy => hlimit y (by simp [hy]))
      have hfirst : (readNat b (Nat.toDigits b x)).filter (· < limit) = some x := by
        simp [readNat_toDigits hb hb16, Option.filter_some, hlimit x (by simp)]
      rw [List.map_cons, List.mapM_cons, hfirst, hrest]
      rfl

/-- A text of fields starts with a digit. -/
theorem head_showFields (hb : 1 < b) (hb16 : b ≤ 16) (hsep : digitValue b sep = none) (x : Nat)
    (xs : List Nat) : (showFields b sep (x :: xs)).head? ≠ some sep := by
  obtain ⟨c, cs, hdigits⟩ := List.exists_cons_of_ne_nil (Nat.toDigits_ne_nil (n := x) (b := b))
  have hc : digitValue b c ≠ none := by
    apply digitValue_of_mem_toDigits hb hb16
    rw [hdigits]
    exact List.mem_cons_self
  have hhead : (showFields b sep (x :: xs)).head? = some c := by
    cases xs <;> simp [showFields, hdigits, List.intercalate]
  rw [hhead]
  rintro ⟨⟩
  exact hc hsep

/-- Fields of at most `k` digits with their separators. -/
theorem length_showFields_lt (hb : 1 < b) {k : Nat} (hk : 0 < k) {xs : List Nat} (hxs : xs ≠ [])
    (hsmall : ∀ x ∈ xs, x < b ^ k) : (showFields b sep xs).length < xs.length * (k + 1) := by
  induction xs with
  | nil => exact absurd rfl hxs
  | cons x xs ih =>
      have hx : (Nat.toDigits b x).length ≤ k :=
        (Nat.length_toDigits_le_iff hb hk).mpr (hsmall x (by simp))
      cases xs with
      | nil =>
          simp [showFields]
          omega
      | cons y ys =>
          have hrest := ih (by simp) (fun z hz => hsmall z (by simp [hz]))
          have hcons : showFields b sep (x :: y :: ys) =
              Nat.toDigits b x ++ sep :: showFields b sep (y :: ys) := by
            simp [showFields, List.intercalate]
          rw [hcons, List.length_append, List.length_cons]
          simp only [List.length_cons] at hrest ⊢
          have hexpand : (ys.length + 1 + 1) * (k + 1) = (ys.length + 1) * (k + 1) + (k + 1) := by
            ring
          omega

end fields

/-! ### The two families -/

/-- Four bytes as a dotted quad. -/
def quadText (bs : List UInt8) : List Char := showFields 10 '.' (bs.map UInt8.toNat)

def readQuad (cs : List Char) : Option (List UInt8) :=
  ((readFields 10 '.' 256 cs).filter (·.length = 4)).map (List.map UInt8.ofNat)

theorem quad_fields {bs : List UInt8} (hlen : bs.length = 4) :
    bs.map UInt8.toNat ≠ [] ∧ ∀ x ∈ bs.map UInt8.toNat, x < 256 := by
  constructor
  · rw [ne_eq, List.map_eq_nil_iff, ← List.length_eq_zero_iff]
    omega
  · intro x hx
    obtain ⟨byte, _, rfl⟩ := List.mem_map.mp hx
    exact byte.toNat_lt

theorem readQuad_quadText {bs : List UInt8} (hlen : bs.length = 4) :
    readQuad (quadText bs) = some bs := by
  obtain ⟨hne, hsmall⟩ := quad_fields hlen
  have hfields : readFields 10 '.' 256 (quadText bs) = some (bs.map UInt8.toNat) :=
    readFields_showFields (by decide) (by decide) (by decide) hne hsmall
  have hback : (bs.map UInt8.toNat).map UInt8.ofNat = bs := by
    rw [List.map_map]
    exact List.map_id'' (fun byte => UInt8.ofNat_toNat) bs
  rw [readQuad, hfields, Option.filter_some, if_pos (by simpa using hlen), Option.map_some, hback]

theorem length_quadText_lt {bs : List UInt8} (hlen : bs.length = 4) :
    (quadText bs).length < 16 := by
  obtain ⟨hne, hsmall⟩ := quad_fields hlen
  have hlt : (quadText bs).length < (bs.map UInt8.toNat).length * (3 + 1) :=
    length_showFields_lt (by decide) (by decide) hne
      (fun x hx => (hsmall x hx).trans (by decide))
  rwa [List.length_map, hlen] at hlt

/-- Pairs of bytes as the groups they make up, high byte first. -/
def groups : List UInt8 → List Nat
  | hi :: lo :: rest => (256 * hi.toNat + lo.toNat) :: groups rest
  | _ => []

def ungroup (gs : List Nat) : List UInt8 :=
  gs.flatMap fun g => [UInt8.ofNat (g / 256), UInt8.ofNat (g % 256)]

theorem mem_groups_lt {bs : List UInt8} {g : Nat} (hg : g ∈ groups bs) : g < 65536 := by
  fun_induction groups bs with
  | case1 hi lo rest ih =>
      rcases List.mem_cons.mp hg with rfl | hrest
      · have hhi := hi.toNat_lt
        have hlo := lo.toNat_lt
        omega
      · exact ih hrest
  | case2 => simp at hg

/-- An even number of bytes is made up again from its groups. -/
theorem groups_spec {bs : List UInt8} {k : Nat} (hlen : bs.length = 2 * k) :
    (groups bs).length = k ∧ ungroup (groups bs) = bs := by
  induction k generalizing bs with
  | zero =>
      rw [List.length_eq_zero_iff.mp hlen]
      exact ⟨rfl, rfl⟩
  | succ k ih =>
      match bs, hlen with
      | hi :: lo :: rest, hlen =>
        simp only [List.length_cons] at hlen
        obtain ⟨hlength, hback⟩ := ih (show rest.length = 2 * k by omega)
        have hlo := lo.toNat_lt
        have hdiv : (256 * hi.toNat + lo.toNat) / 256 = hi.toNat := by omega
        have hmod : (256 * hi.toNat + lo.toNat) % 256 = lo.toNat := by omega
        refine ⟨by simp [groups, hlength], ?_⟩
        rw [groups, ungroup, List.flatMap_cons, hdiv, hmod, UInt8.ofNat_toNat, UInt8.ofNat_toNat]
        exact congrArg (fun tail => hi :: lo :: tail) hback

/-- The twelve bytes in front of an IPv4 address in an IPv6 one. -/
def mappedPrefix : List UInt8 := List.replicate 10 0 ++ [0xff, 0xff]

def mappedText : List Char := [':', ':', 'f', 'f', 'f', 'f', ':']

/-- Sixteen bytes as eight groups, or with a dotted quad after the prefix. -/
def groupsText (bs : List UInt8) : List Char :=
  if bs.take 12 = mappedPrefix then mappedText ++ quadText (bs.drop 12)
  else showFields 16 ':' (groups bs)

def readGroups (cs : List Char) : Option (List UInt8) :=
  if mappedText <+: cs then (readQuad (cs.drop 7)).map (mappedPrefix ++ ·)
  else ((readFields 16 ':' 65536 cs).filter (·.length = 8)).map ungroup

theorem readGroups_groupsText {bs : List UInt8} (hlen : bs.length = 16) :
    readGroups (groupsText bs) = some bs := by
  unfold groupsText
  split
  · rename_i hmapped
    have hquad : readQuad (quadText (bs.drop 12)) = some (bs.drop 12) :=
      readQuad_quadText (by simp [hlen])
    have hdrop : (mappedText ++ quadText (bs.drop 12)).drop 7 = quadText (bs.drop 12) := rfl
    rw [readGroups, if_pos (List.prefix_append _ _), hdrop, hquad, Option.map_some, ← hmapped,
      List.take_append_drop]
  · obtain ⟨hlength, hback⟩ := groups_spec (k := 8) hlen
    obtain ⟨g, gs, hcons⟩ := List.exists_cons_of_length_pos (l := groups bs) (by omega)
    have hstart : ¬ mappedText <+: showFields 16 ':' (groups bs) := by
      rintro ⟨rest, hrest⟩
      have hhead := head_showFields (b := 16) (by decide) (by decide)
        (show digitValue 16 ':' = none by decide) g gs
      rw [← hcons, ← hrest] at hhead
      exact hhead rfl
    have hfields : readFields 16 ':' 65536 (showFields 16 ':' (groups bs)) =
        some (groups bs) :=
      readFields_showFields (by decide) (by decide) (by decide) (by simp [hcons])
        (fun x hx => mem_groups_lt hx)
    rw [readGroups, if_neg hstart, hfields, Option.filter_some, if_pos (by simpa using hlength),
      Option.map_some, hback]

theorem length_groupsText_lt {bs : List UInt8} (hlen : bs.length = 16) :
    (groupsText bs).length < 46 := by
  unfold groupsText
  split
  · have hquad := length_quadText_lt (show (bs.drop 12).length = 4 by simp [hlen])
    rw [List.length_append]
    have hseven : mappedText.length = 7 := rfl
    omega
  · obtain ⟨hlength, _⟩ := groups_spec (k := 8) hlen
    have hlt : (showFields 16 ':' (groups bs)).length < (groups bs).length * (4 + 1) :=
      length_showFields_lt (by decide) (by decide)
        (by rw [ne_eq, ← List.length_eq_zero_iff]; omega) (fun x hx => mem_groups_lt hx)
    omega

end MbedSockets.Lib.Inet
