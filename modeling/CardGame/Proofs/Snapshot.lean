import CardGame.Proofs.Coding
import CardGame.Proofs.Registering

/-!
Snapshots. The codec of cards is lawful, so a registry's snapshot gives its cards back, whatever
follows it, and no proper part of a snapshot is one. The cards of a registry have different names,
which is why registering them once more leaves them in their places.
-/

namespace CardGame.Snapshot.Codec

variable {α : Type}

theorem reads_tagged {n variants : Nat} {f : Nat → Decoder α} {bytes : List UInt8} {a : α}
    (read : Reads (f n) bytes a) (known : n < variants := by decide)
    (few : variants < 2 ^ 32 := by decide) :
    Reads (variant variants >>= f) (tag n ++ bytes) a :=
  (reads_variant known few).bind read

theorem reads_bare {n variants : Nat} {f : Nat → Decoder α} {a : α} (same : f n = pure a)
    (known : n < variants := by decide) (few : variants < 2 ^ 32 := by decide) :
    Reads (variant variants >>= f) (tag n) a :=
  (reads_variant known few).ends same

instance : Lawful quantity where
  reads q := by
    cases q with
    | number n => exact reads_tagged ((Lawful.reads (c := signed64) n).map Quantity.number)
    | one => exact reads_bare rfl
    | x => exact reads_bare rfl
  steady := by
    refine (extends_variant 3).bind fun n => ?_
    split
    · exact (Lawful.steady (c := signed64)).map _
    · exact extends_pure _
    · exact extends_pure _
  nonempty q := by cases q <;> simp [quantity, tag_ne_nil]

instance : Lawful essence :=
  lawful_choice (fun a => by cases a <;> decide) (by decide)

instance : Lawful color :=
  lawful_choice (fun a => by rcases a with ⟨⟨⟩⟩ | _ <;> decide) (by decide)

instance : Lawful costSymbol where
  reads c := by
    cases c with
    | essence e => exact reads_tagged ((Lawful.reads (c := essence) e).map CostSymbol.essence)
    | activate => exact reads_bare rfl
    | deactivate => exact reads_bare rfl
    | generic q => exact reads_tagged ((Lawful.reads (c := quantity) q).map CostSymbol.generic)
  steady := by
    refine (extends_variant 4).bind fun n => ?_
    split
    · exact (Lawful.steady (c := essence)).map _
    · exact extends_pure _
    · exact extends_pure _
    · exact (Lawful.steady (c := quantity)).map _
  nonempty c := by cases c <;> simp [costSymbol, tag_ne_nil]

instance : Lawful (choice CardKind.all) :=
  lawful_choice (fun a => by cases a <;> decide) (by decide)

instance : Lawful kindWord :=
  lawful_imap _ fun _ => rfl

instance : Lawful subtype :=
  lawful_choice (fun a => by cases a <;> decide) (by decide)

instance : Lawful keyword :=
  lawful_choice (fun a => by cases a <;> decide) (by decide)

instance : Lawful stats :=
  lawful_imap _ fun _ => rfl

instance : Lawful selector :=
  lawful_choice (fun a => by cases a <;> decide) (by decide)

instance : Lawful stat :=
  lawful_choice (fun a => by cases a <;> decide) (by decide)

instance : Lawful direction :=
  lawful_choice (fun a => by cases a <;> decide) (by decide)

instance : Lawful trait where
  reads t := by
    cases t with
    | color c => exact reads_tagged ((Lawful.reads (c := color) c).map Trait.color)
    | nonColor c => exact reads_tagged ((Lawful.reads (c := color) c).map Trait.nonColor)
    | kind k => exact reads_tagged ((Lawful.reads (c := kindWord) k).map Trait.kind)
    | nonKind k => exact reads_tagged ((Lawful.reads (c := kindWord) k).map Trait.nonKind)
    | activated => exact reads_bare rfl
    | deactivated => exact reads_bare rfl
    | stats s => exact reads_tagged ((Lawful.reads (c := stats) s).map Trait.stats)
  steady := by
    refine (extends_variant 7).bind fun n => ?_
    split
    · exact (Lawful.steady (c := color)).map _
    · exact (Lawful.steady (c := color)).map _
    · exact (Lawful.steady (c := kindWord)).map _
    · exact (Lawful.steady (c := kindWord)).map _
    · exact extends_pure _
    · exact extends_pure _
    · exact (Lawful.steady (c := stats)).map _
  nonempty t := by cases t <;> simp [trait, tag_ne_nil]

theorem encodeAlternatives_eq (m : CardMatch) :
    encodeAlternatives m = m.flatMap encodeAlternative := by
  induction m with
  | nil => rw [encodeAlternatives, List.flatMap_nil]
  | cons a m ih => rw [encodeAlternatives, List.flatMap_cons, ih]

theorem encodeMatch_eq (m : CardMatch) : encodeMatch m = encodeList encodeAlternative m := by
  rw [encodeMatch, encodeAlternatives_eq, encodeList]

theorem encodeMatches_eq (ms : List CardMatch) : encodeMatches ms = ms.flatMap encodeMatch := by
  induction ms with
  | nil => rw [encodeMatches, List.flatMap_nil]
  | cons m ms ih => rw [encodeMatches, List.flatMap_cons, ih, encodeMatch]

theorem encodeAlternative_ne_nil (a : Alternative) : encodeAlternative a ≠ [] := by
  cases a <;> simp [encodeAlternative, tag_ne_nil]

theorem encodeMatch_ne_nil (m : CardMatch) : encodeMatch m ≠ [] := by
  rw [encodeMatch_eq]
  exact encodeList_ne_nil _ _

theorem length_le_length_flatMap {α : Type} (write : α → List UInt8) {a : α} {as : List α}
    (mem : a ∈ as) : (write a).length ≤ (as.flatMap write).length :=
  (List.sublist_flatten_of_mem (List.mem_map_of_mem mem)).length_le.trans
    (by rw [List.flatMap_def])

theorem reads_match {d : Nat} {m : CardMatch} (deep : (encodeMatch m).length ≤ d)
    (each : ∀ a ∈ m, ∀ d, (encodeAlternative a).length ≤ d →
      Reads (decodeAlternative (decodeMatchWithin d)) (encodeAlternative a) a) :
    Reads (decodeMatchWithin d) (encodeMatch m) m := by
  rw [encodeMatch_eq, encodeList, List.length_append] at deep
  have header := List.length_pos_iff.2 (Lawful.nonempty (c := word64) (UInt64.ofNat m.length))
  obtain ⟨d, rfl⟩ : ∃ k, d = k + 1 := ⟨d - 1, by omega⟩
  rw [encodeMatch_eq]
  refine reads_list encodeAlternative_ne_nil fun a mem => each a mem d ?_
  have := length_le_length_flatMap encodeAlternative mem
  omega

theorem encodeFilter_eq (chosen : Option Selector) (traits : List Trait) (without : Option Keyword)
    (has : Option Having) (targeting : List CardMatch) :
    encodeFilter ⟨chosen, traits, without, has, targeting⟩ =
      (option selector).encode chosen ++ ((list trait).encode traits
        ++ ((option keyword).encode without
          ++ (encodeOption encodeHaving has ++ encodeList encodeMatch targeting))) := by
  cases has <;>
    simp only [encodeFilter, encodeMatches_eq, encodeOption, encodeList, List.append_assoc]

section Count

variable {inner : Decoder CardMatch} {m : CardMatch}

theorem reads_numberOf (read : Reads inner (encodeMatch m) m) :
    Reads (decodeCount inner) (encodeCount (.numberOf m)) (.numberOf m) := by
  rw [encodeCount, List.append_assoc]
  exact reads_tagged (read.map Count.numberOf)

theorem reads_attribute (s : Stat) (read : Reads inner (encodeMatch m) m) :
    Reads (decodeCount inner) (encodeCount (.attribute m s)) (.attribute m s) := by
  rw [encodeCount, List.append_assoc, List.append_assoc, ← List.append_assoc (word64.encode _)]
  exact reads_tagged (read.bind ((Lawful.reads (c := stat) s).map (Count.attribute m)))

theorem reads_value (q : Quantity) :
    Reads (decodeCount inner) (encodeCount (.value q)) (.value q) := by
  rw [encodeCount]
  exact reads_tagged ((Lawful.reads (c := quantity) q).map Count.value)

theorem reads_countBetween {n : Count} (lead trail : Option Direction)
    (read : Reads (decodeCount inner) (encodeCount n) n) :
    Reads (decodeComparison inner) (encodeComparison ⟨lead, n, trail⟩) ⟨lead, n, trail⟩ := by
  rw [encodeComparison, List.append_assoc]
  exact (Lawful.reads (c := option direction) lead).bind
    (read.bind ((Lawful.reads (c := option direction) trail).map _))

end Count

mutual

theorem reads_alternative : ∀ (a : Alternative) (d : Nat), (encodeAlternative a).length ≤ d →
    Reads (decodeAlternative (decodeMatchWithin d)) (encodeAlternative a) a
  | .named, d, _ => by
    rw [encodeAlternative]
    exact reads_bare rfl
  | .this, d, _ => by
    rw [encodeAlternative]
    exact reads_bare rfl
  | .filter f, d, deep => by
    rw [encodeAlternative, List.length_append] at deep
    rw [encodeAlternative]
    exact reads_tagged ((reads_filter f d (by omega)).map Alternative.filter)

theorem reads_filter : ∀ (f : CardFilter) (d : Nat), (encodeFilter f).length ≤ d →
    Reads (decodeFilter (decodeMatchWithin d)) (encodeFilter f) f
  | ⟨chosen, traits, without, has, targeting⟩, d, deep => by
    rw [encodeFilter_eq] at deep ⊢
    simp only [encodeList, List.length_append] at deep
    have had := reads_optionalHaving has d (by omega)
    have targeted : Reads (decodeList (decodeMatchWithin d)) (encodeList encodeMatch targeting)
        targeting := by
      refine reads_list encodeMatch_ne_nil fun m mem => reads_matches targeting m mem d ?_
      have := length_le_length_flatMap encodeMatch mem
      omega
    exact (Lawful.reads (c := option selector) chosen).bind
      ((Lawful.reads (c := list trait) traits).bind
        ((Lawful.reads (c := option keyword) without).bind (had.bind (targeted.map _))))

theorem reads_optionalHaving : ∀ (has : Option Having) (d : Nat),
    (encodeOption encodeHaving has).length ≤ d →
      Reads (decodeOption (decodeHaving (decodeMatchWithin d))) (encodeOption encodeHaving has) has
  | none, d, _ => reads_option fun _ same => nomatch same
  | some h, d, deep => by
    rw [encodeOption, List.length_cons] at deep
    refine reads_option fun k same => ?_
    rw [← Option.some.inj same]
    exact reads_having h d (by omega)

theorem reads_having : ∀ (h : Having) (d : Nat), (encodeHaving h).length ≤ d →
    Reads (decodeHaving (decodeMatchWithin d)) (encodeHaving h) h
  | .keywords ks, d, _ => by
    rw [encodeHaving]
    exact reads_tagged ((Lawful.reads (c := list keyword) ks).map Having.keywords)
  | .comparison s c, d, deep => by
    rw [encodeHaving, List.append_assoc] at deep ⊢
    simp only [List.length_append] at deep
    exact reads_tagged ((Lawful.reads (c := stat) s).bind
      ((reads_comparison c d (by omega)).map (Having.comparison s)))

theorem reads_comparison : ∀ (c : Comparison) (d : Nat), (encodeComparison c).length ≤ d →
    Reads (decodeComparison (decodeMatchWithin d)) (encodeComparison c) c
  | ⟨lead, n, trail⟩, d, deep => by
    simp only [encodeComparison, List.length_append] at deep
    exact reads_countBetween lead trail (reads_count n d (by omega))

theorem reads_count : ∀ (n : Count) (d : Nat), (encodeCount n).length ≤ d →
    Reads (decodeCount (decodeMatchWithin d)) (encodeCount n) n
  | .numberOf m, d, deep => by
    rw [encodeCount, List.append_assoc, ← encodeMatch, List.length_append] at deep
    exact reads_numberOf (reads_match (by omega) (reads_alternatives m))
  | .attribute m s, d, deep => by
    rw [encodeCount, List.append_assoc, List.append_assoc, ← List.append_assoc (word64.encode _),
      ← encodeMatch, List.length_append, List.length_append] at deep
    exact reads_attribute s (reads_match (by omega) (reads_alternatives m))
  | .value q, _, _ => reads_value q

theorem reads_alternatives : ∀ (m : List Alternative), ∀ a ∈ m, ∀ d,
    (encodeAlternative a).length ≤ d →
      Reads (decodeAlternative (decodeMatchWithin d)) (encodeAlternative a) a
  | [], _, mem, _, _ => nomatch mem
  | b :: m, a, mem, d, deep => by
    rcases List.mem_cons.1 mem with same | later
    · rw [same] at deep ⊢
      exact reads_alternative b d deep
    · exact reads_alternatives m a later d deep

theorem reads_matches : ∀ (ms : List (List Alternative)), ∀ m ∈ ms, ∀ d,
    (encodeMatch m).length ≤ d → Reads (decodeMatchWithin d) (encodeMatch m) m
  | [], _, mem, _, _ => nomatch mem
  | n :: ms, m, mem, d, deep => by
    rcases List.mem_cons.1 mem with same | later
    · rw [same] at deep ⊢
      exact reads_match deep (reads_alternatives n)
    · exact reads_matches ms m later d deep

end

theorem extends_decodeCount {inner deeper : Decoder CardMatch} (steady : Extends inner deeper) :
    Extends (decodeCount inner) (decodeCount deeper) := by
  refine (extends_variant 3).bind fun n => ?_
  split
  · exact steady.map _
  · exact steady.bind fun m => (Lawful.steady (c := stat)).map _
  · exact (Lawful.steady (c := quantity)).map _

theorem extends_decodeComparison {inner deeper : Decoder CardMatch}
    (steady : Extends inner deeper) :
    Extends (decodeComparison inner) (decodeComparison deeper) :=
  (Lawful.steady (c := option direction)).bind fun _ => (extends_decodeCount steady).bind fun _ =>
    (Lawful.steady (c := option direction)).map _

theorem extends_decodeHaving {inner deeper : Decoder CardMatch} (steady : Extends inner deeper) :
    Extends (decodeHaving inner) (decodeHaving deeper) := by
  refine (extends_variant 2).bind fun n => ?_
  split
  · exact (Lawful.steady (c := list keyword)).map _
  · exact (Lawful.steady (c := stat)).bind fun s => (extends_decodeComparison steady).map _

theorem extends_decodeFilter {inner deeper : Decoder CardMatch} (steady : Extends inner deeper) :
    Extends (decodeFilter inner) (decodeFilter deeper) :=
  (Lawful.steady (c := option selector)).bind fun _ =>
    (Lawful.steady (c := list trait)).bind fun _ =>
      (Lawful.steady (c := option keyword)).bind fun _ =>
        (extends_decodeOption (extends_decodeHaving steady)).bind fun _ =>
          (extends_decodeList steady).map _

theorem extends_decodeAlternative {inner deeper : Decoder CardMatch}
    (steady : Extends inner deeper) :
    Extends (decodeAlternative inner) (decodeAlternative deeper) := by
  refine (extends_variant 3).bind fun n => ?_
  split
  · exact extends_pure _
  · exact extends_pure _
  · exact (extends_decodeFilter steady).map _

theorem extends_decodeMatchWithin {d k : Nat} (deeper : d ≤ k) :
    Extends (decodeMatchWithin d) (decodeMatchWithin k) := by
  induction d generalizing k with
  | zero => exact extends_throw _ _
  | succ d ih =>
    obtain ⟨k, rfl⟩ : ∃ j, k = j + 1 := ⟨k - 1, by omega⟩
    exact extends_decodeList (extends_decodeAlternative (ih (by omega)))

theorem run_decodeMatch (bytes : List UInt8) :
    decodeMatch.run bytes = (decodeMatchWithin (bytes.length + 1)).run bytes := by
  rw [StateT.run, StateT.run, decodeMatch]

theorem reads_decodeMatch (m : CardMatch) : Reads decodeMatch (encodeMatch m) m := by
  intro short rest
  have deep : (encodeMatch m).length ≤ (encodeMatch m ++ rest).length + 1 := by
    rw [List.length_append]
    omega
  rw [run_decodeMatch]
  exact reads_matches [m] m (.head _) _ deep short rest

theorem extends_decodeMatch : Extends decodeMatch decodeMatch := by
  intro bytes m rest more ran
  have deeper : bytes.length + 1 ≤ (bytes ++ more).length + 1 := by
    rw [List.length_append]
    omega
  rw [run_decodeMatch] at ran ⊢
  exact extends_decodeMatchWithin deeper bytes m rest more ran

instance : Lawful cardMatch where
  reads := reads_decodeMatch
  steady := extends_decodeMatch
  nonempty := encodeMatch_ne_nil

theorem encodeComparison_ne_nil (c : Comparison) : encodeComparison c ≠ [] := by
  obtain ⟨_ | lead, n, trail⟩ := c <;> simp [encodeComparison, option, encodeOption]

instance : Lawful comparison where
  reads := fun ⟨lead, n, trail⟩ => by
    refine reads_countBetween lead trail ?_
    cases n with
    | numberOf m => exact reads_numberOf (Lawful.reads (c := cardMatch) m)
    | value q => exact reads_value q
    | _ m s => exact reads_attribute s (Lawful.reads (c := cardMatch) m)
  steady := extends_decodeComparison (Lawful.steady (c := cardMatch))
  nonempty := encodeComparison_ne_nil

instance : Lawful playerMatch :=
  have : Lawful (choice [PlayerAlternative.each, .you, .opponent, .controller]) :=
    lawful_choice (fun a => by cases a <;> decide) (by decide)
  inferInstanceAs (Lawful (list _))

instance : Lawful (choice Zone.all) :=
  lawful_choice (fun a => by cases a <;> decide) (by decide)

instance : Lawful zoneMatch :=
  inferInstanceAs (Lawful (list _))

instance : Lawful anyMatch where
  reads t := by
    cases t with
    | player m => exact reads_tagged ((Lawful.reads (c := playerMatch) m).map AnyMatch.player)
    | card m => exact reads_tagged ((Lawful.reads (c := cardMatch) m).map AnyMatch.card)
    | anyTarget => exact reads_bare rfl
  steady := by
    refine (extends_variant 3).bind fun n => ?_
    split
    · exact (Lawful.steady (c := playerMatch)).map _
    · exact (Lawful.steady (c := cardMatch)).map _
    · exact extends_pure _
  nonempty t := by cases t <;> simp [anyMatch, tag_ne_nil]

instance : Lawful playerAction where
  reads a := by
    cases a with
    | sacrifice m =>
      exact reads_tagged ((Lawful.reads (c := cardMatch) m).map PlayerAction.sacrifice)
    | draw => exact reads_bare rfl
  steady := by
    refine (extends_variant 2).bind fun n => ?_
    split
    · exact (Lawful.steady (c := cardMatch)).map _
    · exact extends_pure _
  nonempty a := by cases a <;> simp [playerAction, tag_ne_nil]

instance : Lawful cardAction :=
  lawful_choice (fun a => by cases a <;> decide) (by decide)

instance : Lawful condition where
  reads c := by
    cases c with
    | yourTurn => exact reads_bare rfl
    | notYourTurn => exact reads_bare rfl
    | player who action =>
      simp only [condition, List.append_assoc]
      exact reads_tagged ((Lawful.reads (c := playerMatch) who).bind
        ((Lawful.reads (c := playerAction) action).map (Condition.player who)))
    | card which action =>
      simp only [condition, List.append_assoc]
      exact reads_tagged ((Lawful.reads (c := cardMatch) which).bind
        ((Lawful.reads (c := cardAction) action).map (Condition.card which)))
    | numerical s c =>
      simp only [condition, List.append_assoc]
      exact reads_tagged ((Lawful.reads (c := stat) s).bind
        ((Lawful.reads (c := comparison) c).map (Condition.numerical s)))
  steady := by
    refine (extends_variant 5).bind fun n => ?_
    split
    · exact extends_pure _
    · exact extends_pure _
    · exact (Lawful.steady (c := playerMatch)).bind fun _ =>
        (Lawful.steady (c := playerAction)).map _
    · exact (Lawful.steady (c := cardMatch)).bind fun _ => (Lawful.steady (c := cardAction)).map _
    · exact (Lawful.steady (c := stat)).bind fun _ => (Lawful.steady (c := comparison)).map _
  nonempty c := by cases c <;> simp [condition, tag_ne_nil]

instance : Lawful trigger where
  reads t := by
    cases t with
    | play m => exact reads_tagged ((Lawful.reads (c := cardMatch) m).map Trigger.play)
    | gainLife m => exact reads_tagged ((Lawful.reads (c := playerMatch) m).map Trigger.gainLife)
    | loseLife m => exact reads_tagged ((Lawful.reads (c := playerMatch) m).map Trigger.loseLife)
    | dealtDamage m =>
      exact reads_tagged ((Lawful.reads (c := cardMatch) m).map Trigger.dealtDamage)
    | condition c => exact reads_tagged ((Lawful.reads (c := condition) c).map Trigger.condition)
  steady := by
    refine (extends_variant 5).bind fun n => ?_
    split
    · exact (Lawful.steady (c := cardMatch)).map _
    · exact (Lawful.steady (c := playerMatch)).map _
    · exact (Lawful.steady (c := playerMatch)).map _
    · exact (Lawful.steady (c := cardMatch)).map _
    · exact (Lawful.steady (c := condition)).map _
  nonempty t := by cases t <;> simp [trigger, tag_ne_nil]

instance : Lawful sign :=
  lawful_choice (fun a => by cases a <;> decide) (by decide)

instance : Lawful putPosition :=
  lawful_choice (fun a => by cases a <;> decide) (by decide)

theorem reads_playerEffect (e : PlayerEffect) :
    Reads playerEffect.decode (playerEffect.encode e) e := by
  cases e with
  | draw n => exact reads_tagged ((Lawful.reads (c := quantity) n).map PlayerEffect.draw)
  | token n s kinds subtypes =>
    simp only [playerEffect, List.append_assoc]
    exact reads_tagged ((Lawful.reads (c := quantity) n).bind
      ((Lawful.reads (c := option stats) s).bind ((Lawful.reads (c := list kindWord) kinds).bind
        ((Lawful.reads (c := list subtype) subtypes).map (PlayerEffect.token n s kinds)))))
  | destroy m => exact reads_tagged ((Lawful.reads (c := cardMatch) m).map PlayerEffect.destroy)
  | discard n m =>
    simp only [playerEffect, List.append_assoc]
    exact reads_tagged ((Lawful.reads (c := quantity) n).bind
      ((Lawful.reads (c := option cardMatch) m).map (PlayerEffect.discard n)))
  | shuffle m zone =>
    simp only [playerEffect, List.append_assoc]
    exact reads_tagged ((Lawful.reads (c := option cardMatch) m).bind
      ((Lawful.reads (c := zoneMatch) zone).map (PlayerEffect.shuffle m)))
  | look n zone =>
    simp only [playerEffect, List.append_assoc]
    exact reads_tagged ((Lawful.reads (c := quantity) n).bind
      ((Lawful.reads (c := zoneMatch) zone).map (PlayerEffect.look n)))
  | put m position zone anyOrder randomOrder deactivated =>
    simp only [playerEffect, List.append_assoc]
    exact reads_tagged ((Lawful.reads (c := cardMatch) m).bind
      ((Lawful.reads (c := putPosition) position).bind ((Lawful.reads (c := zoneMatch) zone).bind
        ((Lawful.reads (c := bool) anyOrder).bind ((Lawful.reads (c := bool) randomOrder).bind
          ((Lawful.reads (c := bool) deactivated).map
            (PlayerEffect.put m position zone anyOrder randomOrder)))))))
  | activate m => exact reads_tagged ((Lawful.reads (c := cardMatch) m).map PlayerEffect.activate)
  | deactivate m =>
    exact reads_tagged ((Lawful.reads (c := cardMatch) m).map PlayerEffect.deactivate)
  | sacrifice m => exact reads_tagged ((Lawful.reads (c := cardMatch) m).map PlayerEffect.sacrifice)
  | add costs =>
    exact reads_tagged ((Lawful.reads (c := list costSymbol) costs).map PlayerEffect.add)
  | payEssence costs =>
    exact reads_tagged ((Lawful.reads (c := list costSymbol) costs).map PlayerEffect.payEssence)
  | gainLife n => exact reads_tagged ((Lawful.reads (c := quantity) n).map PlayerEffect.gainLife)
  | loseLife n => exact reads_tagged ((Lawful.reads (c := quantity) n).map PlayerEffect.loseLife)
  | payLife n => exact reads_tagged ((Lawful.reads (c := quantity) n).map PlayerEffect.payLife)
  | extraTurn n => exact reads_tagged ((Lawful.reads (c := quantity) n).map PlayerEffect.extraTurn)

theorem extends_playerEffect : Extends playerEffect.decode playerEffect.decode := by
  have counted (make : Quantity → PlayerEffect) := (Lawful.steady (c := quantity)).map make
  have matched (make : CardMatch → PlayerEffect) := (Lawful.steady (c := cardMatch)).map make
  have priced (make : List CostSymbol → PlayerEffect) :=
    (Lawful.steady (c := list costSymbol)).map make
  refine (extends_variant 16).bind fun n => ?_
  split
  · exact counted _
  · exact (Lawful.steady (c := quantity)).bind fun _ =>
      (Lawful.steady (c := option stats)).bind fun _ =>
        (Lawful.steady (c := list kindWord)).bind fun _ => (Lawful.steady (c := list subtype)).map _
  · exact matched _
  · exact (Lawful.steady (c := quantity)).bind fun _ =>
      (Lawful.steady (c := option cardMatch)).map _
  · exact (Lawful.steady (c := option cardMatch)).bind fun _ =>
      (Lawful.steady (c := zoneMatch)).map _
  · exact (Lawful.steady (c := quantity)).bind fun _ => (Lawful.steady (c := zoneMatch)).map _
  · exact (Lawful.steady (c := cardMatch)).bind fun _ =>
      (Lawful.steady (c := putPosition)).bind fun _ =>
        (Lawful.steady (c := zoneMatch)).bind fun _ =>
        (Lawful.steady (c := bool)).bind fun _ => (Lawful.steady (c := bool)).bind fun _ =>
          (Lawful.steady (c := bool)).map _
  · exact matched _
  · exact matched _
  · exact matched _
  · exact priced _
  · exact priced _
  · exact counted _
  · exact counted _
  · exact counted _
  · exact counted _

instance : Lawful playerEffect where
  reads := reads_playerEffect
  steady := extends_playerEffect
  nonempty e := by cases e <;> simp [playerEffect, tag_ne_nil]

instance : Lawful cardEffect where
  reads e := by
    cases e with
    | damage n target =>
      simp only [cardEffect, List.append_assoc]
      exact reads_tagged ((Lawful.reads (c := quantity) n).bind
        ((Lawful.reads (c := anyMatch) target).map (CardEffect.damage n)))
    | gets powerSign power healthSign health =>
      simp only [cardEffect, List.append_assoc]
      exact reads_tagged ((Lawful.reads (c := sign) powerSign).bind
        ((Lawful.reads (c := quantity) power).bind ((Lawful.reads (c := sign) healthSign).bind
          ((Lawful.reads (c := quantity) health).map
            (CardEffect.gets powerSign power healthSign)))))
    | attack => exact reads_bare rfl
  steady := by
    refine (extends_variant 3).bind fun n => ?_
    split
    · exact (Lawful.steady (c := quantity)).bind fun _ => (Lawful.steady (c := anyMatch)).map _
    · exact (Lawful.steady (c := sign)).bind fun _ => (Lawful.steady (c := quantity)).bind fun _ =>
        (Lawful.steady (c := sign)).bind fun _ => (Lawful.steady (c := quantity)).map _
    · exact extends_pure _
  nonempty e := by cases e <;> simp [cardEffect, tag_ne_nil]

instance : Lawful effect where
  reads e := by
    cases e with
    | player subject optional effects =>
      simp only [effect, List.append_assoc]
      exact reads_tagged ((Lawful.reads (c := option playerMatch) subject).bind
        ((Lawful.reads (c := bool) optional).bind
          ((Lawful.reads (c := list playerEffect) effects).map (Effect.player subject optional))))
    | card subject effects =>
      simp only [effect, List.append_assoc]
      exact reads_tagged ((Lawful.reads (c := option cardMatch) subject).bind
        ((Lawful.reads (c := list cardEffect) effects).map (Effect.card subject)))
  steady := by
    refine (extends_variant 2).bind fun n => ?_
    split
    · exact (Lawful.steady (c := option playerMatch)).bind fun _ =>
        (Lawful.steady (c := bool)).bind fun _ => (Lawful.steady (c := list playerEffect)).map _
    · exact (Lawful.steady (c := option cardMatch)).bind fun _ =>
        (Lawful.steady (c := list cardEffect)).map _
  nonempty e := by cases e <;> simp [effect, tag_ne_nil]

instance : Lawful composed :=
  lawful_imap _ fun _ => rfl

instance : Lawful abilityCost where
  reads c := by
    cases c with
    | symbol c => exact reads_tagged ((Lawful.reads (c := costSymbol) c).map AbilityCost.symbol)
    | effect e => exact reads_tagged ((Lawful.reads (c := effect) e).map AbilityCost.effect)
  steady := by
    refine (extends_variant 2).bind fun n => ?_
    split
    · exact (Lawful.steady (c := costSymbol)).map _
    · exact (Lawful.steady (c := effect)).map _
  nonempty c := by cases c <;> simp [abilityCost, tag_ne_nil]

instance : Lawful activated :=
  lawful_imap _ fun _ => rfl

instance : Lawful triggered :=
  lawful_imap _ fun _ => rfl

instance : Lawful ability where
  reads a := by
    cases a with
    | keyword k => exact reads_tagged ((Lawful.reads (c := keyword) k).map Ability.keyword)
    | composed c => exact reads_tagged ((Lawful.reads (c := composed) c).map Ability.composed)
    | activated a => exact reads_tagged ((Lawful.reads (c := activated) a).map Ability.activated)
    | triggered t => exact reads_tagged ((Lawful.reads (c := triggered) t).map Ability.triggered)
  steady := by
    refine (extends_variant 4).bind fun n => ?_
    split
    · exact (Lawful.steady (c := keyword)).map _
    · exact (Lawful.steady (c := composed)).map _
    · exact (Lawful.steady (c := activated)).map _
    · exact (Lawful.steady (c := triggered)).map _
  nonempty a := by cases a <;> simp [ability, tag_ne_nil]

theorem reads_card {c : Card} (fits : room 16 c.costs.length < 2 ^ 47) :
    Reads card.decode (card.encode c) c := by
  simp only [card, List.append_assoc]
  exact (Lawful.reads (c := text) c.name).bind ((reads_reservedList costSymbol fits).bind
    ((Lawful.reads (c := list kindWord) c.kinds).bind
      ((Lawful.reads (c := list subtype) c.subtypes).bind
        ((Lawful.reads (c := list ability) c.abilities).bind
          ((Lawful.reads (c := option stats) c.stats).map
            (Card.mk c.name c.costs c.kinds c.subtypes c.abilities))))))

theorem extends_card : Extends card.decode card.decode :=
  (Lawful.steady (c := text)).bind fun _ => (extends_reservedList costSymbol 16).bind fun _ =>
    (Lawful.steady (c := list kindWord)).bind fun _ =>
      (Lawful.steady (c := list subtype)).bind fun _ =>
        (Lawful.steady (c := list ability)).bind fun _ => (Lawful.steady (c := option stats)).map _

theorem encode_card_ne_nil (c : Card) : card.encode c ≠ [] := by
  have named := Lawful.nonempty (c := text) c.name
  simp [card, named]

end CardGame.Snapshot.Codec

namespace CardGame.Registry

open Snapshot

/-- The registries that can be built: read from text, or with another card registered. -/
inductive Built : Registry → Prop where
  | empty : Built empty
  | load (text : String) : Built (load text).registry
  | register {r : Registry} (built : Built r) (c : Card) : Built (r.register c).1

/-- What a machine holds: its byte strings are counted by 64-bit words, and the costs of a card have
their room in memory. -/
structure InMemory (r : Registry) : Prop where
  bytes : r.toBytes.length < 2 ^ 64
  costs : ∀ c ∈ r.cards, Codec.room 16 c.costs.length < 2 ^ 47

theorem Built.indexed {r : Registry} (built : r.Built) : r.Indexed := by
  induction built with
  | empty => exact indexed_empty
  | load text => exact indexed_ofCards _
  | register _ c indexed => exact indexed.register c

theorem reads_cards {r : Registry} (held : r.InMemory) :
    Reads (Codec.decodeList Codec.card.decode) r.toBytes r.cards :=
  Codec.reads_list Codec.encode_card_ne_nil fun c mem => Codec.reads_card (held.costs c mem)

theorem decodeCards_of_read {bytes rest : List UInt8} {cards : List Card}
    (read : (Codec.decodeList Codec.card.decode).run bytes = .ok (cards, rest)) :
    decodeCards bytes = .ok cards := by
  rw [decodeCards, show (Codec.list Codec.card).decode bytes = .ok (cards, rest) from read]

theorem decodeCards_of_failed {bytes : List UInt8} {e : DecodeError}
    (failed : (Codec.decodeList Codec.card.decode).run bytes = .error e) :
    decodeCards bytes = .error e := by
  rw [decodeCards, show (Codec.list Codec.card).decode bytes = .error e from failed]

/-- A snapshot gives the registry back, whatever follows it, and no proper part of it is one. -/
theorem Built.ofBytes_toBytes {r : Registry} (built : r.Built) (held : r.InMemory) :
    (∀ trailing, ofBytes (r.toBytes ++ trailing) = .ok (r, [])) ∧
      ∀ front, front <+: r.toBytes → front ≠ r.toBytes → ∃ e, ofBytes front = .error e := by
  have read := reads_cards held held.bytes
  constructor
  · intro trailing
    rw [ofBytes, decodeCards_of_read (read trailing), Except.map, built.indexed.ofCards_cards]
  · intro front part proper
    have shorter : front.length < r.toBytes.length :=
      lt_of_le_of_ne part.length_le fun same => proper (part.eq_of_length same)
    have whole := read []
    rw [List.append_nil] at whole
    obtain ⟨e, failed⟩ :=
      (Codec.extends_decodeList Codec.extends_card).fails_on_part whole shorter
    rw [← List.prefix_iff_eq_take.1 part] at failed
    exact ⟨e, by rw [ofBytes, decodeCards_of_failed failed, Except.map]⟩

def afterReplacing : Registry :=
  ((load "Oak\nSource\n\nAsh {w}\nUnit - Elf\nFly\n2/1").registry.register
    ⟨"OAK", [.generic (.number 2)], [], [.elf], [], none⟩).1

theorem ofBytes_toBytes_afterReplacing :
    (∀ trailing, ofBytes (afterReplacing.toBytes ++ trailing) = .ok (afterReplacing, [])) ∧
      ∀ front, front <+: afterReplacing.toBytes → front ≠ afterReplacing.toBytes →
        ∃ e, ofBytes front = .error e := by
  have held : afterReplacing.InMemory := ⟨by decide +kernel, by decide +kernel⟩
  exact Built.ofBytes_toBytes ((Built.load _).register _) held

end CardGame.Registry
