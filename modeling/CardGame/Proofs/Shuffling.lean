import Mathlib.Data.List.Permutation
import Mathlib.Data.Set.Card
import Mathlib.Data.Stream.Init
import Mathlib.Order.Interval.Finset.Nat
import CardGame.Zone.Pile

/-!
What a shuffle makes of an order. It draws one index for each place from the last one down, and an
exchange fixes the entry of its place for good. So two sequences of indices make different orders,
the first index that differs fixing different entries, and every order is made by some sequence:
each index is where the entry stands by then that the order has in its place. The indices come from
words, which stand for an index in blocks of one length; so indices are drawn evenly, and with one
sequence for each order no order is likelier than another.
-/

namespace CardGame.Random

variable {α : Type}

def placesFrom (place : Nat) : List Nat :=
  (List.range' 1 place).reverse

/-- One index for each place from a given one down, each at most its place. -/
def Draws (place : Nat) (indices : List Nat) : Prop :=
  List.Forall₂ (fun j i => j ≤ i) indices (placesFrom place)

@[simp] theorem placesFrom_succ (place : Nat) :
    placesFrom (place + 1) = (place + 1) :: placesFrom place := by
  simp [placesFrom, List.range'_1_concat, Nat.add_comm]

@[simp] theorem draws_zero (indices : List Nat) : Draws 0 indices ↔ indices = [] := by
  simp [Draws, placesFrom]

@[simp] theorem draws_succ (place j : Nat) (js : List Nat) :
    Draws (place + 1) (j :: js) ↔ j ≤ place + 1 ∧ Draws place js := by
  simp [Draws]

theorem Draws.exists_cons {place : Nat} {indices : List Nat} (drawn : Draws (place + 1) indices) :
    ∃ j js, indices = j :: js ∧ j ≤ place + 1 ∧ Draws place js := by
  cases indices with
  | nil => simp [Draws] at drawn
  | cons j js => exact ⟨j, js, rfl, (draws_succ place j js).1 drawn⟩

/-! ### Indices from words -/

def firstWord (width bound j : Nat) : Nat :=
  (j * 2 ^ width + bound - 1) / bound

def wordsEach (width bound : Nat) : Nat :=
  2 ^ (width - 1 - bound.log2)

theorem mul_wordsEach_le {width bound : Nat} (fits : bound ≤ 2 ^ width) :
    bound * wordsEach width bound ≤ 2 ^ width := by
  obtain full | short := Nat.eq_or_lt_of_le fits
  · rw [wordsEach, full, Nat.log2_two_pow, show width - 1 - width = 0 by omega, Nat.pow_zero,
      Nat.mul_one]
  · obtain rfl | positive := Nat.eq_zero_or_pos bound
    · simp
    · have log : bound.log2 < width := (Nat.log2_lt (by omega)).2 short
      calc bound * wordsEach width bound
          ≤ 2 ^ (bound.log2 + 1) * 2 ^ (width - 1 - bound.log2) :=
            Nat.mul_le_mul_right _ Nat.lt_log2_self.le
        _ = 2 ^ width := by rw [← Nat.pow_add]; congr 1; omega

theorem firstWord_le_iff {width bound j word : Nat} (positive : 0 < bound) :
    firstWord width bound j ≤ word ↔ j * 2 ^ width ≤ word * bound := by
  rw [firstWord, Nat.div_le_iff_le_mul positive]
  omega

theorem acceptance_eq {width bound : Nat} :
    acceptance width bound = bound * wordsEach width bound - 1 := by
  rw [acceptance, Nat.shiftLeft_eq, wordsEach]

theorem div_eq_and_mod_lt_iff {n d j room : Nat} (fits : room ≤ d) :
    n / d = j ∧ n % d < room ↔ j * d ≤ n ∧ n < j * d + room := by
  constructor
  · rintro ⟨rfl, low⟩
    have := Nat.div_add_mod' n d
    omega
  · rintro ⟨least, most⟩
    obtain ⟨k, rfl⟩ := Nat.exists_eq_add_of_le least
    have inside : k < d := by omega
    rw [Nat.mul_comm j d, Nat.mul_add_div (by omega), Nat.mul_add_mod_self_left,
      Nat.div_eq_of_lt inside, Nat.mod_eq_of_lt inside]
    omega

theorem indexOfWord?_eq_some_iff {width bound j word : Nat} (positive : 0 < bound)
    (fits : bound ≤ 2 ^ width) :
    indexOfWord? width bound word = some j ↔
      firstWord width bound j ≤ word ∧ word < firstWord width bound j + wordsEach width bound := by
  have room : 0 < wordsEach width bound := Nat.two_pow_pos _
  have block := mul_wordsEach_le fits
  have below : word < firstWord width bound j + wordsEach width bound ↔
      word * bound < j * 2 ^ width + bound * wordsEach width bound := by
    obtain few | many := Nat.lt_or_ge word (wordsEach width bound)
    · have : word * bound < bound * wordsEach width bound := by
        rw [Nat.mul_comm]; exact Nat.mul_lt_mul_of_pos_left few positive
      omega
    · obtain ⟨k, rfl⟩ := Nat.exists_eq_add_of_le many
      have : firstWord width bound j ≤ k ↔ j * 2 ^ width ≤ k * bound := firstWord_le_iff positive
      rw [Nat.add_mul, Nat.mul_comm (wordsEach width bound)]
      omega
  have positiveRoom : 0 < bound * wordsEach width bound := Nat.mul_pos positive room
  calc indexOfWord? width bound word = some j
      ↔ word * bound / 2 ^ width = j ∧
          word * bound % 2 ^ width < bound * wordsEach width bound := by
        simp only [indexOfWord?, acceptance_eq, Nat.one_shiftLeft, Nat.shiftRight_eq_div_pow]
        split
        next low => simp; omega
        next high => simp; omega
    _ ↔ _ := by rw [div_eq_and_mod_lt_iff block, firstWord_le_iff positive, below]

theorem index_lt_iff {width bound j word : Nat} (positive : 0 < bound)
    (found : indexOfWord? width bound word = some j) : j < bound ↔ word < 2 ^ width := by
  simp only [indexOfWord?, Option.ite_none_right_eq_some, Option.some.injEq,
    Nat.shiftRight_eq_div_pow] at found
  rw [← found.2, Nat.div_lt_iff_lt_mul (Nat.two_pow_pos width), Nat.mul_comm]
  exact Nat.mul_lt_mul_left positive

theorem ncard_words {width bound j : Nat} (below : j < bound) (fits : bound ≤ 2 ^ width) :
    {word | word < 2 ^ width ∧ indexOfWord? width bound word = some j}.ncard =
      wordsEach width bound := by
  have positive : 0 < bound := by omega
  have words : {word | word < 2 ^ width ∧ indexOfWord? width bound word = some j} =
      ↑(Finset.Ico (firstWord width bound j)
        (firstWord width bound j + wordsEach width bound)) := by
    ext word
    rw [Finset.coe_Ico, Set.mem_Ico, ← indexOfWord?_eq_some_iff positive fits]
    exact and_iff_right_of_imp fun found => (index_lt_iff positive found).1 below
  rw [words, Set.ncard_coe_finset, Nat.card_Ico, Nat.add_sub_cancel_left]

theorem exists_word {width bound j : Nat} (below : j < bound) (fits : bound ≤ 2 ^ width) :
    ∃ word < 2 ^ width, indexOfWord? width bound word = some j := by
  have positive : 0 < bound := by omega
  have found : indexOfWord? width bound (firstWord width bound j) = some j :=
    (indexOfWord?_eq_some_iff positive fits).2
      ⟨Nat.le_refl _, Nat.lt_add_of_pos_right (Nat.two_pow_pos _)⟩
  exact ⟨_, (index_lt_iff positive found).1 below, found⟩

section

variable {σ : Type}

theorem indexBelow_succ (width bound attempts : Nat) (next : σ → Nat × σ) (s : σ) :
    indexBelow width bound next (attempts + 1) s =
      match indexOfWord? width bound (next s).1 with
      | some i => (i, (next s).2)
      | none => indexBelow width bound next attempts (next s).2 :=
  rfl

theorem drawIndices_succ (index : Nat → σ → Nat × σ) (n : Nat) (s : σ) :
    (drawIndices index (n + 2) s).1 =
      (index (n + 1) s).1 :: (drawIndices index (n + 1) (index (n + 1) s).2).1 :=
  rfl

theorem indexBelow_lt {width bound : Nat} {next : σ → Nat × σ} (positive : 0 < bound)
    (inside : ∀ s, (next s).1 < 2 ^ width) (attempts : Nat) (s : σ) :
    (indexBelow width bound next attempts s).1 < bound := by
  induction attempts generalizing s with
  | zero => exact positive
  | succ attempts ih =>
    rw [indexBelow_succ]
    split
    next i found => exact (index_lt_iff positive found).2 (inside s)
    next => exact ih _

variable [WordSource σ]

theorem word64_lt (s : σ) : (word64 s).1 < 2 ^ 64 :=
  UInt64.toNat_lt _

theorem indexUpTo_le (last : Nat) (s : σ) : (indexUpTo last s).1 ≤ last :=
  Nat.lt_succ_iff.1 (indexBelow_lt last.succ_pos word64_lt _ s)

theorem indexUpTo_of_word {last j : Nat} {s : σ}
    (stands : indexOfWord? 64 (last + 1) (word64 s).1 = some j) :
    indexUpTo last s = (j, (word64 s).2) := by
  obtain ⟨n, more⟩ : ∃ n, maxRejections = n + 1 := ⟨1023, rfl⟩
  rw [indexUpTo, more, indexBelow_succ, stands]

theorem draws_drawIndices (n : Nat) (s : σ) : Draws (n - 1) (drawIndices indexUpTo n s).1 := by
  induction n generalizing s with
  | zero => exact (draws_zero _).2 rfl
  | succ n ih =>
    cases n with
    | zero => exact (draws_zero _).2 rfl
    | succ n =>
      rw [drawIndices_succ]
      exact (draws_succ n _ _).2 ⟨indexUpTo_le (n + 1) s, ih _⟩

end

/-! ### Every sequence of indices -/

/-- Words that are all there already, each taken once. -/
instance : WordSource (Stream' UInt32) :=
  ⟨fun words => (words.head, words.tail)⟩

theorem or_shiftLeft_halves (w : UInt64) :
    w.toUInt32.toUInt64 ||| ((w >>> 32).toUInt32.toUInt64 <<< 32) = w := by
  have bound := w.toNat_lt
  have low : w.toNat % 4294967296 < 2 ^ 32 := Nat.mod_lt _ (by decide)
  have high : w.toNat >>> 32 % 4294967296 = w.toNat / 2 ^ 32 := by
    rw [Nat.shiftRight_eq_div_pow]
    omega
  refine UInt64.toNat_inj.1 ?_
  simp only [UInt64.toNat_or, UInt64.toNat_shiftLeft, UInt32.toNat_toUInt64, UInt64.toNat_toUInt32,
    UInt64.toNat_shiftRight, UInt64.reduceToNat, Nat.reduceMod, Nat.reducePow, high]
  rw [Nat.or_comm, Nat.shiftLeft_eq, Nat.mod_eq_of_lt (by omega), ← Nat.shiftLeft_eq,
    ← Nat.shiftLeft_add_eq_or_of_lt low, Nat.shiftLeft_eq]
  omega

theorem exists_word64 {word : Nat} (inside : word < 2 ^ 64) (rest : Stream' UInt32) :
    ∃ words : Stream' UInt32, word64 words = (word, rest) := by
  let whole : UInt64 := UInt64.ofNat word
  refine ⟨.cons whole.toUInt32 (.cons (whole >>> 32).toUInt32 rest), ?_⟩
  simp only [word64, WordSource.next32, Stream'.head_cons, Stream'.tail_cons, or_shiftLeft_halves]
  rw [UInt64.toNat_ofNat_of_lt' inside]

theorem exists_word64_ne (word : Nat) : ∃ words : Stream' UInt32, (word64 words).1 ≠ word := by
  by_cases zero : word = 0
  · exact ⟨.const 1, by rw [zero]; decide⟩
  · exact ⟨.const 0, Ne.symm zero⟩

/-- A word by which the draw of an index is settled, whatever words come after it. -/
def Settles (last word j : Nat) : Prop :=
  ∀ words : Stream' UInt32, (word64 words).1 = word → indexUpTo last words = (j, (word64 words).2)

theorem settles_iff {last word j : Nat} (few : last < 2 ^ 64) (inside : word < 2 ^ 64) :
    Settles last word j ↔ indexOfWord? 64 (last + 1) word = some j := by
  refine ⟨fun settles => ?_, fun stands words first => indexUpTo_of_word (first ▸ stands)⟩
  cases found : indexOfWord? 64 (last + 1) word with
  | some i =>
    obtain ⟨words, taken⟩ := exists_word64 inside (.const 0)
    have drawn := settles words (by rw [taken])
    rw [indexUpTo_of_word (by rw [taken, found])] at drawn
    exact congrArg some (congrArg Prod.fst drawn)
  | none =>
    -- The next word is taken as well, and what comes after that begins otherwise.
    obtain ⟨next, room, stands⟩ : ∃ next < 2 ^ 64, indexOfWord? 64 (last + 1) next = some 0 :=
      exists_word last.succ_pos few
    obtain ⟨after, apart⟩ := exists_word64_ne next
    obtain ⟨rest, takenNext⟩ := exists_word64 room after
    obtain ⟨words, taken⟩ := exists_word64 inside rest
    obtain ⟨n, more⟩ : ∃ n, maxRejections = n + 2 := ⟨1022, rfl⟩
    have drawn : indexUpTo last words = (0, after) := by
      rw [indexUpTo, more, indexBelow_succ, taken, found]
      simp only [indexBelow_succ, takenNext, stands]
    rw [settles words (by rw [taken]), taken] at drawn
    obtain rfl : rest = after := congrArg Prod.snd drawn
    exact absurd (by rw [takenNext]) apart

theorem ncard_settles {last j : Nat} (few : last < 2 ^ 64) (least : j ≤ last) :
    {word | word < 2 ^ 64 ∧ Settles last word j}.ncard = 2 ^ (63 - (last + 1).log2) := by
  have words : {word | word < 2 ^ 64 ∧ Settles last word j} =
      {word | word < 2 ^ 64 ∧ indexOfWord? 64 (last + 1) word = some j} :=
    Set.ext fun _ => and_congr_right (settles_iff few)
  rw [words, ncard_words (Nat.lt_succ_of_le least) few, wordsEach]

theorem exists_indexUpTo {last j : Nat} (few : last < 2 ^ 64) (least : j ≤ last)
    (rest : Stream' UInt32) : ∃ words : Stream' UInt32, indexUpTo last words = (j, rest) := by
  obtain ⟨word, inside, stands⟩ : ∃ word < 2 ^ 64, indexOfWord? 64 (last + 1) word = some j :=
    exists_word (Nat.lt_succ_of_le least) few
  obtain ⟨words, taken⟩ := exists_word64 inside rest
  refine ⟨words, ?_⟩
  rw [indexUpTo_of_word (s := words) (j := j) (by rw [taken, stands]), taken]

theorem exists_drawIndices {n : Nat} (few : n ≤ 2 ^ 64) {indices : List Nat}
    (drawn : Draws (n - 1) indices) :
    ∃ words : Stream' UInt32, (drawIndices indexUpTo n words).1 = indices := by
  induction n generalizing indices with
  | zero => exact ⟨.const 0, ((draws_zero indices).1 drawn).symm⟩
  | succ n ih =>
    cases n with
    | zero => exact ⟨.const 0, ((draws_zero indices).1 drawn).symm⟩
    | succ n =>
      obtain ⟨j, js, rfl, least, rest⟩ := drawn.exists_cons
      obtain ⟨later, made⟩ := ih (by omega) rest
      obtain ⟨words, first⟩ := exists_indexUpTo (by omega) least later
      exact ⟨words, by rw [drawIndices_succ, first, made]⟩

theorem range_drawIndices {n : Nat} (few : n ≤ 2 ^ 64) :
    Set.range (fun words : Stream' UInt32 => (drawIndices indexUpTo n words).1) =
      {indices | Draws (n - 1) indices} := by
  refine Set.Subset.antisymm ?_ fun indices drawn => exists_drawIndices few drawn
  rintro indices ⟨words, rfl⟩
  exact draws_drawIndices n words

/-! ### Orders from indices -/

theorem getElem?_swap_above (entries : Array α) {place j i : Nat} (least : j ≤ place)
    (above : place < i) : (entries.swapIfInBounds place j)[i]? = entries[i]? := by
  rw [Array.swapIfInBounds_def]
  split
  · split
    · rw [Array.getElem?_swap, if_neg (by omega), if_neg (by omega)]
    · rfl
  · rfl

theorem getElem?_swap_place {entries : Array α} {place j : Nat} (inside : place < entries.size)
    (least : j ≤ place) : (entries.swapIfInBounds place j)[place]? = entries[j]? := by
  have below : j < entries.size := by omega
  rw [Array.swapIfInBounds_def, dif_pos inside, dif_pos below, Array.getElem?_swap, if_pos rfl]
  split
  next same => simp [same]
  next => simp [below]

theorem getElem?_exchange_above (entries : Array α) {place i : Nat} {indices : List Nat}
    (drawn : Draws place indices) (above : place < i) :
    (exchange entries place indices)[i]? = entries[i]? := by
  induction place generalizing entries indices with
  | zero => simp [exchange]
  | succ place ih =>
    obtain ⟨j, js, rfl, least, rest⟩ := drawn.exists_cons
    rw [exchange, ih _ rest (by omega), getElem?_swap_above entries least above]

theorem getElem?_exchange_place {entries : Array α} {place j : Nat} {js : List Nat}
    (inside : place + 1 < entries.size) (least : j ≤ place + 1) (rest : Draws place js) :
    (exchange entries (place + 1) (j :: js))[place + 1]? = entries[j]? := by
  rw [exchange, getElem?_exchange_above _ rest (by omega), getElem?_swap_place inside least]

theorem eq_of_perm_of_above {entries order : Array α} (same : order.Perm entries)
    (fixed : ∀ i, 0 < i → order[i]? = entries[i]?) : order = entries := by
  obtain ⟨entries⟩ := entries
  obtain ⟨order⟩ := order
  have same : order.Perm entries := Array.perm_iff_toList_perm.1 same
  cases entries with
  | nil => rw [same.eq_nil]
  | cons x entries =>
    cases order with
    | nil => exact absurd same.symm.eq_nil (List.cons_ne_nil x entries)
    | cons y order =>
      obtain rfl : order = entries :=
        List.ext_getElem? fun i => by simpa using fixed (i + 1) (by omega)
      have single : [y].Perm [x] := (List.perm_append_right_iff order).1 same
      rw [List.singleton_perm_singleton.1 single]

theorem eq_of_getElem?_eq {entries : Array α} (distinct : entries.toList.Nodup) {i j : Nat} {e : α}
    (first : entries[i]? = some e) (second : entries[j]? = some e) : i = j := by
  obtain ⟨before, rfl⟩ := Array.getElem?_eq_some_iff.1 first
  obtain ⟨after, eq⟩ := Array.getElem?_eq_some_iff.1 second
  have listed : entries.toList[j] = entries.toList[i] := by simpa using eq
  exact (distinct.getElem_inj_iff.1 listed).symm

/-- The entry that an order has in a place stands in that place or below, when what is above is
fixed already: it is other than that. -/
theorem exists_source {entries order : Array α} {place : Nat} (distinct : entries.toList.Nodup)
    (inside : place < entries.size) (same : order.Perm entries)
    (fixed : ∀ i, place < i → order[i]? = entries[i]?) :
    ∃ e j, order[place]? = some e ∧ entries[j]? = some e ∧ j ≤ place := by
  have listed : order.toList.Perm entries.toList := Array.perm_iff_toList_perm.1 same
  have sameSize : order.size = entries.size := by simpa using listed.length_eq
  obtain ⟨e, placed⟩ : ∃ e, order[place]? = some e :=
    ⟨_, Array.getElem?_eq_getElem (sameSize ▸ inside)⟩
  have found : e ∈ entries.toList := listed.subset (by simpa using Array.mem_of_getElem? placed)
  obtain ⟨j, stands⟩ : ∃ j, entries[j]? = some e := by simpa using List.mem_iff_getElem?.1 found
  refine ⟨e, j, placed, stands, Nat.not_lt.1 fun beyond => ?_⟩
  have twice : order[j]? = some e := by rw [fixed j beyond, stands]
  have := eq_of_getElem?_eq (listed.nodup_iff.2 distinct) placed twice
  omega

/-- The order that agrees with the entries above a place is made by just one sequence of indices for
the places from there down. -/
theorem existsUnique_exchange {entries order : Array α} {place : Nat}
    (distinct : entries.toList.Nodup) (inside : place < entries.size) (same : order.Perm entries)
    (fixed : ∀ i, place < i → order[i]? = entries[i]?) :
    ∃! indices, Draws place indices ∧ exchange entries place indices = order := by
  induction place generalizing entries with
  | zero =>
    refine ⟨[], ⟨(draws_zero []).2 rfl, ?_⟩, fun indices drawn => (draws_zero indices).1 drawn.1⟩
    rw [exchange, eq_of_perm_of_above same fixed]
  | succ place ih =>
    obtain ⟨e, j, placed, stands, least⟩ := exists_source distinct inside same fixed
    let swapped := entries.swapIfInBounds (place + 1) j
    have swappedPerm : swapped.Perm entries := swapIfInBounds_perm entries _ _
    have swappedDistinct : swapped.toList.Nodup :=
      (Array.perm_iff_toList_perm.1 swappedPerm).nodup_iff.2 distinct
    have swappedFixed : ∀ i, place < i → order[i]? = swapped[i]? := by
      intro i above
      obtain rfl | above : i = place + 1 ∨ place + 1 < i := by omega
      · rw [placed, getElem?_swap_place inside least, stands]
      · rw [fixed i above, getElem?_swap_above entries least above]
    have room : place < swapped.size := by rw [Array.size_swapIfInBounds]; omega
    obtain ⟨js, ⟨rest, made⟩, unique⟩ :=
      ih swappedDistinct room (same.trans swappedPerm.symm) swappedFixed
    refine ⟨j :: js, ⟨(draws_succ place j js).2 ⟨least, rest⟩, made⟩, fun indices other => ?_⟩
    obtain ⟨k, ks, rfl, within, after⟩ := other.1.exists_cons
    obtain rfl : k = j := by
      refine eq_of_getElem?_eq distinct ?_ stands
      rw [← getElem?_exchange_place inside within after, other.2, placed]
    rw [unique ks ⟨after, other.2⟩]

theorem existsUnique_arrange {entries order : List α} (distinct : entries.Nodup)
    (same : order.Perm entries) :
    ∃! indices, Draws (entries.length - 1) indices ∧ arrange entries indices = order := by
  have listed (indices : List Nat) : arrange entries indices = order ↔
      exchange entries.toArray (entries.length - 1) indices = order.toArray := by
    rw [arrange, ← Array.toList_inj]
  simp only [listed]
  cases entries with
  | nil =>
    refine ⟨[], ⟨(draws_zero []).2 rfl, ?_⟩, fun indices drawn => (draws_zero indices).1 drawn.1⟩
    rw [same.eq_nil]
    rfl
  | cons x entries =>
    refine existsUnique_exchange distinct (by simp) (Array.perm_iff_toList_perm.2 same) ?_
    -- Nothing stands above the last place.
    intro i beyond
    have := same.length_eq
    simp only [List.length_cons, Nat.add_sub_cancel] at beyond this
    rw [Array.getElem?_eq_none (by simp; omega), Array.getElem?_eq_none (by simp; omega)]

theorem bijOn_arrange {entries : List α} (distinct : entries.Nodup) :
    Set.BijOn (arrange entries) {indices | Draws (entries.length - 1) indices}
      {order | order.Perm entries} := by
  refine ⟨fun indices _ => arrange_perm entries indices, ?_, ?_⟩
  · intro js first ks second equal
    obtain ⟨_, _, unique⟩ := existsUnique_arrange distinct (arrange_perm entries ks)
    rw [unique js ⟨first, equal⟩, unique ks ⟨second, rfl⟩]
  · intro order same
    obtain ⟨js, ⟨drawn, made⟩, _⟩ := existsUnique_arrange distinct same
    exact ⟨js, drawn, made⟩

theorem ncard_orders {entries : List α} (distinct : entries.Nodup) :
    {order : List α | order.Perm entries}.ncard = entries.length.factorial := by
  classical
  have orders : {order : List α | order.Perm entries} = ↑entries.permutations.toFinset := by
    ext order
    simp
  rw [orders, Set.ncard_coe_finset,
    List.toFinset_card_of_nodup (List.nodup_permutations entries distinct),
    List.length_permutations]

end CardGame.Random

open CardGame.Random

namespace CardGame

theorem Pile.shuffle_cards (p : Pile) (g : Generator) :
    (p.shuffle g).1.cards = arrange p.cards (drawIndices indexUpTo p.size g).1 :=
  rfl

/-- A shuffle is without bias. The sequences of one index for each place from the last down to the
second, each at most its place, make every order of distinct entries, and each order by one of them
alone. Words can make every such sequence and no others, and as many words settle one index as any
other; and the order of a pile is the one that its generator's words make so. -/
theorem shufflesEvenly {α : Type} (entries : List α) (distinct : entries.Nodup) :
    (Set.BijOn (arrange entries) {indices | Draws (entries.length - 1) indices}
        {order | order.Perm entries} ∧
      {order : List α | order.Perm entries}.ncard = entries.length.factorial) ∧
    (∀ n ≤ 2 ^ 64, Set.range (fun words : Stream' UInt32 => (drawIndices indexUpTo n words).1) =
      {indices | Draws (n - 1) indices}) ∧
    (∀ last < 2 ^ 64, ∀ j ≤ last,
      {word | word < 2 ^ 64 ∧ Settles last word j}.ncard = 2 ^ (63 - (last + 1).log2)) ∧
    ∀ (p : Pile) (g : Generator),
      Draws (p.size - 1) (drawIndices indexUpTo p.size g).1 ∧
      (p.shuffle g).1.cards = arrange p.cards (drawIndices indexUpTo p.size g).1 ∧
      (p.shuffle g).1.cards.Perm p.cards :=
  ⟨⟨bijOn_arrange distinct, ncard_orders distinct⟩, fun _ few => range_drawIndices few,
    fun _ few _ least => ncard_settles few least, fun p g =>
    ⟨draws_drawIndices p.size g, p.shuffle_cards g, p.shuffle_perm g⟩⟩

theorem shufflesEvenly_three :
    [1, 2, 3].Nodup ∧
      Set.BijOn (arrange [1, 2, 3]) {indices | Draws 2 indices} {order | order.Perm [1, 2, 3]} ∧
      {order : List Nat | order.Perm [1, 2, 3]}.ncard = 6 ∧
      Set.range (fun words : Stream' UInt32 => (drawIndices indexUpTo 3 words).1) =
        {indices | Draws 2 indices} :=
  have distinct : [1, 2, 3].Nodup := by decide
  have even := shufflesEvenly [1, 2, 3] distinct
  ⟨distinct, even.1.1, even.1.2, even.2.1 3 (by decide)⟩

end CardGame
