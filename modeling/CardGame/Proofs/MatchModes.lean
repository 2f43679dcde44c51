import CardGame.Proofs.Queries

/-!
The two ways in which matches are evaluated. While candidates are listed every object passes as a
target, so a match means more then than it does once targets are bound, as long as it compares
nothing: what is counted for a comparison grows as well. Matches that designate no target mean the
same either way.
-/

namespace CardGame

mutual

def Alternative.anyFilter (q : CardFilter → Bool) : Alternative → Bool
  | .named => false
  | .this => false
  | .filter f => f.anyFilter q

def CardFilter.anyFilter (q : CardFilter → Bool) : CardFilter → Bool
  | ⟨chosen, traits, without, has, targeting⟩ =>
    q ⟨chosen, traits, without, has, targeting⟩
    || (match has with
      | none => false
      | some h => h.anyFilter q)
    || matchesAnyFilter q targeting

def Having.anyFilter (q : CardFilter → Bool) : Having → Bool
  | .keywords _ => false
  | .comparison _ c => c.anyFilter q

def Comparison.anyFilter (q : CardFilter → Bool) : Comparison → Bool
  | ⟨_, n, _⟩ => n.anyFilter q

def Count.anyFilter (q : CardFilter → Bool) : Count → Bool
  | .numberOf m => matchAnyFilter q m
  | .attribute owner _ => matchAnyFilter q owner
  | .value _ => false

def matchAnyFilter (q : CardFilter → Bool) : List Alternative → Bool
  | [] => false
  | a :: rest => a.anyFilter q || matchAnyFilter q rest

def matchesAnyFilter (q : CardFilter → Bool) : List (List Alternative) → Bool
  | [] => false
  | m :: rest => matchAnyFilter q m || matchesAnyFilter q rest

end

def CardFilter.compares (f : CardFilter) : Bool :=
  match f.having with
  | some (.comparison _ _) => true
  | _ => false

def CardFilter.designates (f : CardFilter) : Bool :=
  f.selector == some .target

def Match.anyFilter (q : CardFilter → Bool) : Match → Bool
  | .card m => matchAnyFilter q m
  | .any (.card m) => matchAnyFilter q m
  | _ => false

def Match.compares (m : Match) : Bool :=
  m.anyFilter CardFilter.compares

def Match.designates (m : Match) : Bool :=
  m = .any .anyTarget || m.anyFilter CardFilter.designates

theorem CardFilter.anyFilter_eq (q : CardFilter → Bool) (f : CardFilter) :
    f.anyFilter q = (q f || f.having.any (·.anyFilter q) || matchesAnyFilter q f.targeting) := by
  obtain ⟨chosen, traits, without, has, targeting⟩ := f
  cases has <;> simp only [anyFilter] <;> rfl

def AbilityUse.designated (u : AbilityUse) (mode : MatchMode) (chosen : Option Selector)
    (c : CardId) : Bool :=
  match chosen with
  | none => true
  | some .sacrificed => u.sacrificed.contains c
  | some .target => mode == .candidates || u.targets (.card c)

theorem AbilityUse.designated_of_bound (u : AbilityUse) {chosen : Option Selector} {c : CardId}
    (bound : u.designated .bound chosen c) : u.designated .candidates chosen c := by
  cases chosen with
  | none => rfl
  | some s =>
    cases s with
    | sacrificed => exact bound
    | target => rfl

theorem AbilityUse.designated_eq (u : AbilityUse) {chosen : Option Selector}
    (free : (chosen == some .target) = false)
    (c : CardId) : u.designated .bound chosen c = u.designated .candidates chosen c := by
  cases chosen with
  | none => rfl
  | some s =>
    cases s with
    | sacrificed => rfl
    | target => exact nomatch free

namespace Game

variable (g : Game) (u : AbilityUse)

theorem filterHolds_eq (mode : MatchMode) (f : CardFilter) (c : CardId) (i : CardInstance) :
    g.filterHolds u mode f c i =
      (u.designated mode f.selector c && f.traits.all i.hasTrait && !f.without.any i.hasKeyword
        && f.having.all (g.havingHolds u mode · i) && g.targetingHolds u mode f.targeting c) := by
  obtain ⟨chosen, traits, without, has, targeting⟩ := f
  cases has <;> simp only [filterHolds] <;> rfl

mutual

theorem alternativeHolds_of_bound (a : Alternative)
    (plain : a.anyFilter CardFilter.compares = false) (c : CardId)
    (bound : g.alternativeHolds u .bound a c) : g.alternativeHolds u .candidates a c := by
  cases a with
  | named => simpa only [alternativeHolds] using bound
  | this => simpa only [alternativeHolds] using bound
  | filter f =>
    rw [alternativeHolds] at bound ⊢
    cases found : g.card? c with
    | none => simp [found] at bound
    | some i =>
      simp only [found] at bound ⊢
      exact filterHolds_of_bound f plain c i bound

theorem filterHolds_of_bound (f : CardFilter) (plain : f.anyFilter CardFilter.compares = false)
    (c : CardId) (i : CardInstance) (bound : g.filterHolds u .bound f c i) :
    g.filterHolds u .candidates f c i := by
  obtain ⟨chosen, traits, without, has, targeting⟩ := f
  simp only [filterHolds_eq, Bool.and_eq_true] at bound ⊢
  simp only [CardFilter.anyFilter_eq, Bool.or_eq_false_iff] at plain
  obtain ⟨⟨⟨⟨designated, trait⟩, lacking⟩, having⟩, targets⟩ := bound
  refine ⟨⟨⟨⟨u.designated_of_bound designated, trait⟩, lacking⟩, ?_⟩,
    targetingHolds_of_bound targeting plain.2 c targets⟩
  cases has with
  | none => rfl
  | some h =>
    -- what a comparison counts differs from one mode to the other, but there is none
    cases h with
    | keywords ks => simpa only [Option.all_some, havingHolds] using having
    | comparison s n => exact nomatch plain.1.1

theorem cardHolds_of_bound (m : List Alternative)
    (plain : matchAnyFilter CardFilter.compares m = false)
    (c : CardId) (bound : g.cardHolds u .bound m c) : g.cardHolds u .candidates m c := by
  cases m with
  | nil => exact bound
  | cons a rest =>
    obtain ⟨first, later⟩ := Bool.or_eq_false_iff.1 plain
    rw [cardHolds, Bool.or_eq_true] at bound ⊢
    exact bound.imp (alternativeHolds_of_bound a first c) (cardHolds_of_bound rest later c)

theorem targetingHolds_of_bound (ms : List (List Alternative))
    (plain : matchesAnyFilter CardFilter.compares ms = false) (c : CardId)
    (bound : g.targetingHolds u .bound ms c) : g.targetingHolds u .candidates ms c := by
  cases ms with
  | nil => exact bound
  | cons m rest =>
    obtain ⟨first, later⟩ := Bool.or_eq_false_iff.1 plain
    rw [targetingHolds, Bool.and_eq_true] at bound ⊢
    refine ⟨?_, targetingHolds_of_bound rest later c bound.2⟩
    obtain ⟨entry, waiting, o, chosen, meant⟩ := by simpa only [List.any_eq_true] using bound.1
    refine List.any_eq_true.2 ⟨entry, waiting, List.any_eq_true.2 ⟨o, chosen, ?_⟩⟩
    obtain ⟨d, card, meant⟩ := (Option.any_eq_true _ _).1 meant
    exact (Option.any_eq_true _ _).2 ⟨d, card, cardHolds_of_bound m first d meant⟩

end

mutual

theorem alternativeHolds_bound_eq (a : Alternative)
    (free : a.anyFilter CardFilter.designates = false) (c : CardId) :
    g.alternativeHolds u .bound a c = g.alternativeHolds u .candidates a c := by
  cases a with
  | named => simp only [alternativeHolds]
  | this => simp only [alternativeHolds]
  | filter f =>
    rw [Alternative.anyFilter] at free
    simp only [alternativeHolds, filterHolds_bound_eq f free c]

theorem filterHolds_bound_eq (f : CardFilter) (free : f.anyFilter CardFilter.designates = false)
    (c : CardId)
    (i : CardInstance) : g.filterHolds u .bound f c i = g.filterHolds u .candidates f c i := by
  obtain ⟨chosen, traits, without, has, targeting⟩ := f
  simp only [CardFilter.anyFilter_eq, Bool.or_eq_false_iff] at free
  obtain ⟨⟨undesignated, having⟩, targets⟩ := free
  simp only [filterHolds_eq, u.designated_eq undesignated c,
    targetingHolds_bound_eq targeting targets c]
  cases has with
  | none => rfl
  | some h => simp only [Option.all_some, havingHolds_bound_eq h having i]

theorem havingHolds_bound_eq (h : Having) (free : h.anyFilter CardFilter.designates = false)
    (i : CardInstance) :
    g.havingHolds u .bound h i = g.havingHolds u .candidates h i := by
  cases h with
  | keywords ks => simp only [havingHolds]
  | comparison s n =>
    rw [Having.anyFilter] at free
    simp only [havingHolds, comparisonHolds_bound_eq n free]

theorem comparisonHolds_bound_eq (n : Comparison) (free : n.anyFilter CardFilter.designates = false)
    (value : Amount) :
    g.comparisonHolds u .bound n value = g.comparisonHolds u .candidates n value := by
  obtain ⟨lead, count, trail⟩ := n
  rw [Comparison.anyFilter] at free
  simp only [comparisonHolds, countValue_bound_eq count free]

theorem countValue_bound_eq : ∀ n : Count, n.anyFilter CardFilter.designates = false →
    g.countValue u .bound n = g.countValue u .candidates n
  | .numberOf m, free => by
    rw [Count.anyFilter] at free
    simp only [countValue, funext (cardHolds_bound_eq m free)]
  | .attribute owner s, free => by
    rw [Count.anyFilter] at free
    simp only [countValue, funext (cardHolds_bound_eq owner free)]
  | .value q, _ => by simp only [countValue]

theorem cardHolds_bound_eq (m : List Alternative)
    (free : matchAnyFilter CardFilter.designates m = false)
    (c : CardId) : g.cardHolds u .bound m c = g.cardHolds u .candidates m c := by
  cases m with
  | nil => simp only [cardHolds]
  | cons a rest =>
    obtain ⟨first, later⟩ := Bool.or_eq_false_iff.1 free
    simp only [cardHolds, alternativeHolds_bound_eq a first c, cardHolds_bound_eq rest later c]

theorem targetingHolds_bound_eq (ms : List (List Alternative))
    (free : matchesAnyFilter CardFilter.designates ms = false) (c : CardId) :
    g.targetingHolds u .bound ms c = g.targetingHolds u .candidates ms c := by
  cases ms with
  | nil => simp only [targetingHolds]
  | cons m rest =>
    obtain ⟨first, later⟩ := Bool.or_eq_false_iff.1 free
    simp only [targetingHolds, funext (cardHolds_bound_eq m first),
      targetingHolds_bound_eq rest later c]

end

variable {g u}

theorem holds_of_bound {m : Match} (plain : m.compares = false) (o : ObjectRef)
    (bound : g.holds u .bound m o) :
    g.holds u .candidates m o := by
  have cards {n : CardMatch} (plain : matchAnyFilter CardFilter.compares n = false)
      (bound : o.card?.any (g.cardHolds u .bound n)) : o.card?.any
        (g.cardHolds u .candidates n) := by
    obtain ⟨c, card, meant⟩ := (Option.any_eq_true _ _).1 bound
    exact (Option.any_eq_true _ _).2 ⟨c, card, g.cardHolds_of_bound u n plain c meant⟩
  cases m with
  | player n => exact bound
  | card n => exact cards plain bound
  | any n =>
    cases n with
    | player n => exact bound
    | card n => exact cards plain bound
    | anyTarget => rfl

theorem holds_bound_eq {m : Match} (free : m.designates = false) (o : ObjectRef) :
    g.holds u .bound m o = g.holds u .candidates m o := by
  obtain ⟨chosen, within⟩ := Bool.or_eq_false_iff.1 free
  cases m with
  | player n => rfl
  | card n => simp only [holds, funext (g.cardHolds_bound_eq u n within)]
  | any n =>
    cases n with
    | player n => rfl
    | card n => simp only [holds, anyHolds, funext (g.cardHolds_bound_eq u n within)]
    | anyTarget => cases chosen

theorem objectsOf_sublist {m : Match} {mode mode' : MatchMode}
    (wider : ∀ o, g.holds u mode m o → g.holds u mode' m o) (zones : Option ZoneMatch) :
    (g.objectsOf u m zones mode).Sublist (g.objectsOf u m zones mode') := by
  have kept (l : List ObjectRef) : (l.filter (g.holds u mode m)).Sublist
      (l.filter (g.holds u mode' m)) :=
    List.monotone_filter_right l wider
  simp only [objectsOf, eraseDups_filter]
  exact (kept _).append (kept _)

/-- What is bound is among the candidates. A match without comparisons means no more once targets
are bound than while candidates are listed, so a query finds a part of the candidates then, in their
order, also when a limit cuts it short. A match that designates no target at any level means the
same in both modes, whatever it compares. -/
theorem bound_among_candidates (g : Game) (u : AbilityUse) (m : Match) :
    (m.compares = false → (∀ o, g.holds u .bound m o → g.holds u .candidates m o) ∧
      ∀ zones limit, (g.query u (some m) zones limit .bound).Sublist
        (g.query u (some m) zones none .candidates)) ∧
    (m.designates = false → (∀ o, g.holds u .bound m o = g.holds u .candidates m o) ∧
      ∀ zones limit, g.query u (some m) zones limit .bound =
        g.query u (some m) zones limit .candidates) := by
  refine ⟨fun plain => ⟨holds_of_bound plain, fun zones limit => ?_⟩,
    fun free => ⟨holds_bound_eq free, ?_⟩⟩
  · have found := objectsOf_sublist (holds_of_bound plain) (g := g) (u := u) zones
    cases limit with
    | none => exact found
    | some n => exact (List.take_sublist n _).trans found
  · have same (zones : Option ZoneMatch) : g.objectsOf u m zones .bound =
        g.objectsOf u m zones .candidates := by
      simp only [objectsOf, funext (holds_bound_eq free)]
    intro zones limit
    cases limit with
    | none => exact same zones
    | some n => exact congrArg (List.take n) (same zones)

end Game

/-- Two cards target each other, and one of them is the target. Only the other one is bound as a
card that targets it, while both are candidates; and "a card that targets this one" designates
nothing. -/
theorem bound_among_candidates_eachOther :
    ∃ start, Game.create {} [⟨[.blank "Squire", .blank "Page"], .pass⟩, ⟨[], .pass⟩] = .ok start ∧
      let waiting (c d : CardId) : AbilityUse :=
        { AbilityUse.fresh ⟨c.index⟩ .triggered c ⟨0⟩ with targeting := [.card d] }
      let g := (start.modifyStack (·.push (waiting ⟨0⟩ ⟨1⟩))).modifyStack (·.push (waiting ⟨1⟩ ⟨0⟩))
      let u := { AbilityUse.fresh ⟨2⟩ .activated ⟨0⟩ ⟨0⟩ with targeting := [.card ⟨1⟩] }
      let targeting (a : Alternative) : Match := .card [.filter ⟨none, [], none, none, [[a]]⟩]
      let chosen := targeting (.filter ⟨some .target, [], none, none, []⟩)
      chosen.compares = false ∧ (targeting .named).designates = false ∧
        g.query u (some chosen) none none .bound = [.card ⟨0⟩] ∧
        g.query u (some chosen) none none .candidates = [.card ⟨0⟩, .card ⟨1⟩] ∧
        (g.query u (some chosen) none none .bound).Sublist
          (g.query u (some chosen) none none .candidates) ∧
        g.query u (some (targeting .named)) none none .bound =
          g.query u (some (targeting .named)) none none .candidates := by
  refine ⟨_, rfl, by decide +kernel, by decide +kernel, by decide +kernel,
    by decide +kernel, ?_, ?_⟩
  · exact ((Game.bound_among_candidates _ _ _).1 (by decide +kernel)).2 none none
  · exact ((Game.bound_among_candidates _ _ _).2 (by decide +kernel)).2 none none

end CardGame
