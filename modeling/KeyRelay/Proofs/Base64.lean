import KeyRelay.Base64
import KeyRelay.Text.Utf8

/-!
Base64 reading is the inverse of writing: a text is read where it is what the bytes are written as,
with all of its padding and with zero bits where no byte uses them, and is refused otherwise.
-/

namespace KeyRelay.Base64

/-! ### Symbols -/

example : (List.range 64).map symbol =
    Utf8.bytes "ABCDEFGHIJKLMNOPQRSTUVWXYZabcdefghijklmnopqrstuvwxyz0123456789+/" := by decide

/-- Below 64, so that it is decided number by number. -/
theorem value?_symbol {n : Nat} (h : n < 64) : value? (symbol n) = some n := by
  have all : ∀ n, n < 64 → value? (symbol n) = some n := by decide
  exact all n h

theorem symbol_ne_pad {n : Nat} (h : n < 64) : symbol n ≠ pad := by
  have all : ∀ n, n < 64 → symbol n ≠ pad := by decide
  exact all n h

theorem symbol_of_value? {b : UInt8} {v : Nat} (h : value? b = some v) : symbol v = b ∧ v < 64 := by
  have byte := b.toNat_lt
  simp only [value?] at h
  split at h
  · have value := Option.some.inj h
    rw [symbol, if_pos (by omega)]
    exact ⟨by rw [← value, ← UInt8.toNat_inj, UInt8.toNat_ofNat']; omega, by omega⟩
  split at h
  · have value := Option.some.inj h
    rw [symbol, if_neg (by omega), if_pos (by omega)]
    exact ⟨by rw [← value, ← UInt8.toNat_inj, UInt8.toNat_ofNat']; omega, by omega⟩
  split at h
  · have value := Option.some.inj h
    rw [symbol, if_neg (by omega), if_neg (by omega), if_pos (by omega)]
    exact ⟨by rw [← value, ← UInt8.toNat_inj, UInt8.toNat_ofNat']; omega, by omega⟩
  split at h
  · cases h
    exact ⟨by rw [← UInt8.toNat_inj]; simp [symbol]; omega, by omega⟩
  split at h
  · cases h
    exact ⟨by rw [← UInt8.toNat_inj]; simp [symbol]; omega, by omega⟩
  · cases h

theorem valueAt_eq_ok {offset v : Nat} {b : UInt8} :
    valueAt offset b = .ok v ↔ value? b = some v := by
  rw [valueAt]
  cases value? b <;> simp

theorem valueAt_symbol (offset : Nat) {n : Nat} (h : n < 64) : valueAt offset (symbol n) = .ok n :=
  valueAt_eq_ok.2 (value?_symbol h)

theorem bind_eq_ok {α β : Type} {x : Except Fault α} {f : α → Except Fault β} {r : β} :
    (x >>= f) = .ok r ↔ ∃ a, x = .ok a ∧ f a = .ok r := by
  cases x <;> simp [bind, Except.bind]

/-! ### The last group -/

/-- What the last group stands for: two to four symbols, padded, with zero in the bits no byte
uses. -/
inductive Group.Denotes : Group → List UInt8 → Prop where
  | one {x y : UInt8} {v w place : Nat} (unused : w % 16 = 0) :
      Denotes ⟨[(x, v), (y, w)], place, 2⟩ [UInt8.ofNat (v * 4 + w / 16)]
  | two {x y z : UInt8} {v w u place : Nat} (unused : u % 4 = 0) :
      Denotes ⟨[(x, v), (y, w), (z, u)], place, 1⟩ [UInt8.ofNat (v * 4 + w / 16),
        UInt8.ofNat (w % 16 * 16 + u / 4)]
  | three {x y z t : UInt8} {v w u l place : Nat} :
      Denotes ⟨[(x, v), (y, w), (z, u), (t, l)], place, 0⟩
        [UInt8.ofNat (v * 4 + w / 16), UInt8.ofNat (w % 16 * 16 + u / 4),
          UInt8.ofNat (u % 4 * 64 + l)]

theorem whole_eq_ok {size unused : Nat} {last : Fault} {out bs : List UInt8} :
    (if size ≠ 4 then .error .badPadding else if unused ≠ 0 then .error last
      else .ok out : Except Fault _) = .ok bs ↔
      size = 4 ∧ unused = 0 ∧ out = bs := by
  by_cases four : size = 4 <;> by_cases none : unused = 0 <;> simp [four, none]

theorem lastGroup_eq_ok {offset : Nat} {text bs : List UInt8} (nonempty : text ≠ []) :
    lastGroup offset text = .ok bs ↔ ∃ g, sortGroup offset ⟨[], 0, 0⟩ text = .ok g ∧
    g.Denotes bs := by
  simp only [lastGroup, if_neg nonempty, bind_eq_ok]
  constructor
  · rintro ⟨g, sorted, h⟩
    refine ⟨g, sorted, ?_⟩
    obtain ⟨symbols, firstPad, pads⟩ := g
    rcases symbols with _ | ⟨⟨x, v⟩, _ | ⟨⟨y, w⟩, _ | ⟨⟨z, u⟩, _ | ⟨⟨t, l⟩, _ | more⟩⟩⟩⟩
    · cases h
    · cases h
    · obtain ⟨whole, unused, rfl⟩ := whole_eq_ok.1 h
      obtain rfl : pads = 2 := by simp at whole; omega
      exact .one unused
    · obtain ⟨whole, unused, rfl⟩ := whole_eq_ok.1 h
      obtain rfl : pads = 1 := by simp at whole; omega
      exact .two unused
    · obtain ⟨whole, -, rfl⟩ := whole_eq_ok.1 h
      obtain rfl : pads = 0 := by simpa using whole
      exact .three
    · cases h
  · rintro ⟨g, sorted, denotes⟩
    refine ⟨g, sorted, ?_⟩
    cases denotes with
    | one unused => exact whole_eq_ok.2 ⟨rfl, unused, rfl⟩
    | two unused => exact whole_eq_ok.2 ⟨rfl, unused, rfl⟩
    | three => rfl

/-- A byte made of two symbols is written as these symbols. -/
theorem encode_one {v w : Nat} (hv : v < 64) (hw : w < 64) (unused : w % 16 = 0) :
    encode [UInt8.ofNat (v * 4 + w / 16)] = [symbol v, symbol w, pad, pad] := by
  have byte : (UInt8.ofNat (v * 4 + w / 16)).toNat = v * 4 + w / 16 := by
    rw [UInt8.toNat_ofNat']; omega
  have first : (v * 4 + w / 16) / 4 = v := by omega
  have second : (v * 4 + w / 16) % 4 * 16 = w := by omega
  simp only [encode, byte, first, second]

/-- Two bytes made of three symbols are written as these symbols. -/
theorem encode_two {v w u : Nat} (hv : v < 64) (hw : w < 64) (hu : u < 64) (unused : u % 4 = 0) :
    encode [UInt8.ofNat (v * 4 + w / 16), UInt8.ofNat (w % 16 * 16 + u / 4)] =
      [symbol v, symbol w, symbol u, pad] := by
  have byte₁ : (UInt8.ofNat (v * 4 + w / 16)).toNat = v * 4 + w / 16 := by
    rw [UInt8.toNat_ofNat']; omega
  have byte₂ : (UInt8.ofNat (w % 16 * 16 + u / 4)).toNat = w % 16 * 16 + u / 4 := by
    rw [UInt8.toNat_ofNat']; omega
  have first : (v * 4 + w / 16) / 4 = v := by omega
  have second : (v * 4 + w / 16) % 4 * 16 + (w % 16 * 16 + u / 4) / 16 = w := by omega
  have third : (w % 16 * 16 + u / 4) % 16 * 4 = u := by omega
  simp only [encode, byte₁, byte₂, first, second, third]

/-- Three bytes made of four symbols are written as these symbols. -/
theorem encode_three {v w u l : Nat} (hv : v < 64) (hw : w < 64) (hu : u < 64) (hl : l < 64)
    (rest : List UInt8) :
    encode (UInt8.ofNat (v * 4 + w / 16) :: UInt8.ofNat (w % 16 * 16 + u / 4) ::
      UInt8.ofNat (u % 4 * 64 + l) :: rest) =
      symbol v :: symbol w :: symbol u :: symbol l :: encode rest := by
  have byte₁ : (UInt8.ofNat (v * 4 + w / 16)).toNat = v * 4 + w / 16 := by
    rw [UInt8.toNat_ofNat']; omega
  have byte₂ : (UInt8.ofNat (w % 16 * 16 + u / 4)).toNat = w % 16 * 16 + u / 4 := by
    rw [UInt8.toNat_ofNat']; omega
  have byte₃ : (UInt8.ofNat (u % 4 * 64 + l)).toNat = u % 4 * 64 + l := by
    rw [UInt8.toNat_ofNat']; omega
  have first : (v * 4 + w / 16) / 4 = v := by omega
  have second : (v * 4 + w / 16) % 4 * 16 + (w % 16 * 16 + u / 4) / 16 = w := by omega
  have third : (w % 16 * 16 + u / 4) % 16 * 4 + (u % 4 * 64 + l) / 64 = u := by omega
  have fourth : (u % 4 * 64 + l) % 64 = l := by omega
  simp only [encode, byte₁, byte₂, byte₃, first, second, third, fourth]

/-- A sorted group has taken symbols and then nothing but padding. -/
theorem eq_of_sortGroup {offset : Nat} {g g' : Group} {text : List UInt8}
    (h : sortGroup offset g text = .ok g') :
    ∃ new k, text = new.map (·.1) ++ List.replicate k pad ∧ g'.symbols = g.symbols ++ new ∧
      g'.pads = g.pads + k ∧ (∀ x ∈ new, value? x.1 = some x.2) ∧ (g.pads ≠ 0 → new = []) := by
  induction text generalizing g with
  | nil =>
    cases h
    exact ⟨[], 0, rfl, by simp, rfl, by simp, fun _ => rfl⟩
  | cons b rest ih =>
    simp only [sortGroup] at h
    split at h
    · next padding =>
      split at h
      · cases h
      split at h
      · next first =>
        obtain ⟨new, k, rfl, symbols, pads, values, none⟩ := ih h
        obtain rfl := none (by simp)
        have total : g'.pads = 1 + k := pads
        exact ⟨[], k + 1, by rw [padding]; rfl, symbols, by omega, by simp, fun _ => rfl⟩
      · next later =>
        obtain ⟨new, k, rfl, symbols, pads, values, none⟩ := ih h
        obtain rfl := none (by simp)
        have total : g'.pads = g.pads + 1 + k := pads
        exact ⟨[], k + 1, by rw [padding]; rfl, symbols, by omega, by simp, fun _ => rfl⟩
    · split at h
      · cases h
      next free =>
        obtain ⟨v, value, h⟩ := bind_eq_ok.1 h
        obtain ⟨new, k, rfl, symbols, pads, values, none⟩ := ih h
        refine ⟨(b, v) :: new, k, rfl,
          by rw [symbols]; simp, pads, ?_, fun padded => absurd padded free⟩
        rintro x (_ | ⟨_, hx⟩)
        · exact valueAt_eq_ok.1 value
        · exact values x hx

/-- The last group is the written form of what it stands for. -/
theorem eq_encode_of_lastGroup {offset : Nat} {text bs : List UInt8}
    (h : lastGroup offset text = .ok bs) :
    text = encode bs ∧ bs.length ≤ 3 := by
  by_cases empty : text = []
  · subst empty
    cases h
    exact ⟨rfl, by simp⟩
  obtain ⟨g, sorted, denotes⟩ := (lastGroup_eq_ok empty).1 h
  obtain ⟨new, k, rfl, symbols, pads, values, -⟩ := eq_of_sortGroup sorted
  rw [List.nil_append] at symbols
  rw [Nat.zero_add] at pads
  rw [← symbols] at values ⊢
  rw [← pads]
  cases denotes with
  | @one x y v w place unused =>
    obtain ⟨hx, hv⟩ := symbol_of_value? (values (x, v) (by simp))
    obtain ⟨hy, hw⟩ := symbol_of_value? (values (y, w) (by simp))
    rw [encode_one hv hw unused, hx, hy]
    exact ⟨rfl, by simp⟩
  | @two x y z v w u place unused =>
    obtain ⟨hx, hv⟩ := symbol_of_value? (values (x, v) (by simp))
    obtain ⟨hy, hw⟩ := symbol_of_value? (values (y, w) (by simp))
    obtain ⟨hz, hu⟩ := symbol_of_value? (values (z, u) (by simp))
    rw [encode_two hv hw hu unused, hx, hy, hz]
    exact ⟨rfl, by simp⟩
  | @three x y z t v w u l place =>
    obtain ⟨hx, hv⟩ := symbol_of_value? (values (x, v) (by simp))
    obtain ⟨hy, hw⟩ := symbol_of_value? (values (y, w) (by simp))
    obtain ⟨hz, hu⟩ := symbol_of_value? (values (z, u) (by simp))
    obtain ⟨ht, hl⟩ := symbol_of_value? (values (t, l) (by simp))
    rw [encode_three hv hw hu hl, hx, hy, hz, ht]
    exact ⟨rfl, by simp⟩

/-! ### Whole groups -/

theorem exists_of_groups {offset : Nat} {out text r : List UInt8}
    (h : groups offset out text = .ok r) :
    ∃ bs, r = out.reverse ++ bs ∧ text = encode bs := by
  fun_induction groups offset out text with
  | case1 offset out a b c d e rest ih =>
    obtain ⟨v, ha, h⟩ := bind_eq_ok.1 h
    obtain ⟨w, hb, h⟩ := bind_eq_ok.1 h
    obtain ⟨u, hc, h⟩ := bind_eq_ok.1 h
    obtain ⟨l, hd, h⟩ := bind_eq_ok.1 h
    obtain ⟨bs, rfl, same⟩ := ih v w u l h
    obtain ⟨ha, hv⟩ := symbol_of_value? (valueAt_eq_ok.1 ha)
    obtain ⟨hb, hw⟩ := symbol_of_value? (valueAt_eq_ok.1 hb)
    obtain ⟨hc, hu⟩ := symbol_of_value? (valueAt_eq_ok.1 hc)
    obtain ⟨hd, hl⟩ := symbol_of_value? (valueAt_eq_ok.1 hd)
    refine ⟨UInt8.ofNat (v * 4 + w / 16) :: UInt8.ofNat (w % 16 * 16 + u / 4) ::
      UInt8.ofNat (u % 4 * 64 + l) :: bs, by
      simp only [List.reverse_cons, List.append_assoc, List.cons_append, List.nil_append], ?_⟩
    rw [encode_three hv hw hu hl, ha, hb, hc, hd, same]
  | case2 offset out last short =>
    obtain ⟨bs, read, h⟩ := bind_eq_ok.1 h
    cases h
    exact ⟨bs, rfl, (eq_encode_of_lastGroup read).1⟩

theorem eq_ofNat {b : UInt8} {n : Nat} (h : b.toNat = n) : b = UInt8.ofNat n := by
  rw [← h, UInt8.ofNat_toNat]

theorem exists_one (a : UInt8) :
    ∃ v w, v < 64 ∧ w < 64 ∧ w % 16 = 0 ∧ a = UInt8.ofNat (v * 4 + w / 16) := by
  have := a.toNat_lt
  exact ⟨a.toNat / 4, a.toNat % 4 * 16, by omega, by omega, by omega, eq_ofNat (by omega)⟩

theorem exists_two (a b : UInt8) :
    ∃ v w u, v < 64 ∧ w < 64 ∧ u < 64 ∧ u % 4 = 0 ∧ a = UInt8.ofNat (v * 4 + w / 16) ∧
      b = UInt8.ofNat (w % 16 * 16 + u / 4) := by
  have := a.toNat_lt
  have := b.toNat_lt
  exact ⟨a.toNat / 4, a.toNat % 4 * 16 + b.toNat / 16, b.toNat % 16 * 4,
    by omega, by omega, by omega, by omega, eq_ofNat (by omega), eq_ofNat (by omega)⟩

theorem exists_three (a b c : UInt8) :
    ∃ v w u l, v < 64 ∧ w < 64 ∧ u < 64 ∧ l < 64 ∧ a = UInt8.ofNat (v * 4 + w / 16) ∧
      b = UInt8.ofNat (w % 16 * 16 + u / 4) ∧ c = UInt8.ofNat (u % 4 * 64 + l) := by
  have := a.toNat_lt
  have := b.toNat_lt
  have := c.toNat_lt
  exact ⟨a.toNat / 4, a.toNat % 4 * 16 + b.toNat / 16, b.toNat % 16 * 4 + c.toNat / 64,
    c.toNat % 64, by
    omega, by
    omega, by omega, by omega, eq_ofNat (by omega), eq_ofNat (by omega), eq_ofNat (by omega)⟩

theorem sortGroup_symbol {n : Nat} (h : n < 64) (offset : Nat) (g : Group) (free : g.pads = 0)
    (rest : List UInt8) :
    sortGroup offset g (symbol n :: rest) =
      sortGroup offset { g with symbols := g.symbols ++ [(symbol n, n)] } rest := by
  simp [sortGroup, symbol_ne_pad h, free, valueAt_symbol _ h, bind, Except.bind]

theorem lastGroup_encode (offset : Nat) {bs : List UInt8} (short : bs.length ≤ 3) :
    lastGroup offset (encode bs) = .ok bs := by
  match bs, short with
  | [], _ => rfl
  | [a], _ =>
    obtain ⟨v, w, hv, hw, unused, rfl⟩ := exists_one a
    rw [encode_one hv hw unused]
    refine (lastGroup_eq_ok (by simp)).2 ⟨⟨[(symbol v, v), (symbol w, w)], offset + 2, 2⟩, ?_,
      .one unused⟩
    rw [sortGroup_symbol hv _ _ rfl, sortGroup_symbol hw _ _ rfl]
    rfl
  | [a, b], _ =>
    obtain ⟨v, w, u, hv, hw, hu, unused, rfl, rfl⟩ := exists_two a b
    rw [encode_two hv hw hu unused]
    refine (lastGroup_eq_ok (by simp)).2
      ⟨⟨[(symbol v, v), (symbol w, w), (symbol u, u)], offset + 3, 1⟩, ?_, .two unused⟩
    rw [sortGroup_symbol hv _ _ rfl, sortGroup_symbol hw _ _ rfl, sortGroup_symbol hu _ _ rfl]
    rfl
  | [a, b, c], _ =>
    obtain ⟨v, w, u, l, hv, hw, hu, hl, rfl, rfl, rfl⟩ := exists_three a b c
    rw [encode_three hv hw hu hl]
    refine (lastGroup_eq_ok (by simp)).2
      ⟨⟨[(symbol v, v), (symbol w, w), (symbol u, u), (symbol l, l)], 0, 0⟩, ?_, .three⟩
    rw [sortGroup_symbol hv _ _ rfl, sortGroup_symbol hw _ _ rfl, sortGroup_symbol hu _ _ rfl,
      sortGroup_symbol hl _ _ rfl]
    rfl

theorem encode_ne_nil {bs : List UInt8} (h : bs ≠ []) : encode bs ≠ [] := by
  fun_cases encode bs <;> simp_all

/-- Reading goes on with a whole group where more follows. -/
theorem groups_encode_cons (offset : Nat) (out : List UInt8) (a b c : UInt8) {bs : List UInt8}
    (more : bs ≠ []) :
    groups offset out (encode (a :: b :: c :: bs)) = groups (offset + 4) (c :: b :: a :: out)
      (encode bs) := by
  obtain ⟨v, w, u, l, hv, hw, hu, hl, rfl, rfl, rfl⟩ := exists_three a b c
  rw [encode_three hv hw hu hl]
  cases text : encode bs with
  | nil => exact absurd text (encode_ne_nil more)
  | cons e rest =>
    simp only [groups, valueAt_symbol _ hv, valueAt_symbol _ hw, valueAt_symbol _ hu,
      valueAt_symbol _ hl, bind, Except.bind]

theorem groups_encode_short (offset : Nat) (out : List UInt8) {bs : List UInt8}
    (short : bs.length ≤ 3) :
    groups offset out (encode bs) = .ok (out.reverse ++ bs) := by
  have last : groups offset out (encode bs) = lastGroup offset (encode bs) >>= fun r =>
    .ok (out.reverse ++ r) := by
    match bs, short with
    | [], _ => rfl
    | [_], _ => rfl
    | [_, _], _ => rfl
    | [_, _, _], _ => rfl
  rw [last, lastGroup_encode offset short]
  rfl

theorem groups_encode : ∀ (offset : Nat) (out bs : List UInt8),
    groups offset out (encode bs) = .ok (out.reverse ++ bs)
  | offset, out, a :: b :: c :: d :: rest => by
    rw [groups_encode_cons offset out a b c (by simp), groups_encode (offset + 4) _ (d :: rest)]
    simp
  | offset, out, [] => groups_encode_short offset out (by simp)
  | offset, out, [_] => groups_encode_short offset out (by simp)
  | offset, out, [_, _] => groups_encode_short offset out (by simp)
  | offset, out, [_, _, _] => groups_encode_short offset out (by simp)

theorem length_encode_mod (bs : List UInt8) : (encode bs).length % 4 = 0 := by
  fun_induction encode bs with
  | case1 => rfl
  | case2 a => simp
  | case3 a b => simp
  | case4 a b c rest ih => simp only [List.length_cons]; omega

/-- Reading is the inverse of writing: nothing but the padded text of a byte sequence is read. -/
theorem decode_eq_ok {text bs : List UInt8} : decode text = .ok bs ↔ text = encode bs := by
  have read : decode text = .ok bs → groups 0 [] text = .ok bs := by
    intro h
    simp only [decode] at h
    split at h
    · split at h
      · cases h
      · exact h
    · next ended =>
      rw [List.getLast?_eq_none_iff.1 ended]
      exact h
  constructor
  · intro h
    obtain ⟨bs', same, rfl⟩ := exists_of_groups (read h)
    rw [same, List.reverse_nil, List.nil_append]
  · rintro rfl
    have whole := groups_encode 0 [] bs
    rw [List.reverse_nil, List.nil_append] at whole
    have size : ¬(encode bs).length % 4 = 1 := by rw [length_encode_mod]; decide
    simp only [decode]
    split
    · rw [if_neg fun h => size h.1, whole]
    · next ended =>
      rw [List.getLast?_eq_none_iff.1 ended] at whole
      exact whole

end KeyRelay.Base64
