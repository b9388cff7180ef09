import LinePalette.Pattern.Match

/-!
# Matches

A match that a search finds lies between the place where the search begins and the
end of the text, and every group that took part lies inside the match.  The threads
of a search mark nothing but the position they are at, which is never before the
place where they started.  From this the successive matches in a text are all found,
and none of them reaches into the next.
-/

namespace LinePalette

/-!
# Threads

One turn keeps all threads between the place where the search began and the
position it has come to.
-/

/-- A thread that started, and has marked positions since, between the two given ones. -/
structure Thread.Within (low high : Nat) (thread : Thread) : Prop where
  low_le_start : low ≤ thread.start
  start_le_high : thread.start ≤ high
  marks : ∀ mark ∈ thread.marks, thread.start ≤ mark.2 ∧ mark.2 ≤ high

structure Finding.Within (low high : Nat) (finding : Finding) : Prop where
  low_le_start : low ≤ finding.start
  start_le_stop : finding.start ≤ finding.stop
  stop_le_high : finding.stop ≤ high
  marks : ∀ mark ∈ finding.marks, finding.start ≤ mark.2 ∧ mark.2 ≤ finding.stop

variable {low high position : Nat} {thread : Thread} {threads : List Thread}
  {finding : Finding} {best : Option Finding}

theorem Thread.Within.mono {higher : Nat} (h : thread.Within low high) (hhigher : high ≤ higher) :
    thread.Within low higher := by
  refine ⟨h.low_le_start, Nat.le_trans h.start_le_high hhigher, ?_⟩
  intro mark hmark
  rcases h.marks mark hmark with ⟨hstart, hstop⟩
  exact ⟨hstart, Nat.le_trans hstop hhigher⟩

theorem Thread.Within.goTo (h : thread.Within low high) (step : Nat) :
    Thread.Within low high { thread with step := step } :=
  ⟨h.low_le_start, h.start_le_high, h.marks⟩

theorem Thread.Within.mark (h : thread.Within low position) (slot step : Nat) :
    Thread.Within low position
      { thread with step := step, marks := (slot, position) :: thread.marks } := by
  refine ⟨h.low_le_start, h.start_le_high, ?_⟩
  intro mark hmark
  rcases List.mem_cons.mp hmark with rfl | hearlier
  · exact ⟨h.start_le_high, Nat.le_refl _⟩
  · exact h.marks mark hearlier

theorem Thread.Within.accept (h : thread.Within low position) :
    Finding.Within low position
      { start := thread.start, stop := position, marks := thread.marks } :=
  ⟨h.low_le_start, h.start_le_high, Nat.le_refl _, h.marks⟩

theorem Finding.Within.mono {higher : Nat} (h : finding.Within low high)
    (hhigher : high ≤ higher) : finding.Within low higher :=
  ⟨h.low_le_start, h.start_le_stop, Nat.le_trans h.stop_le_high hhigher, h.marks⟩

namespace Program

variable {program : Program} {before after : Option Char}

theorem settle_within {fuel : Nat} {stack : List Thread} {seen : Array Bool}
    (h : ∀ thread ∈ stack, thread.Within low position) :
    ∀ thread ∈ program.settle before after position fuel stack seen,
      thread.Within low position := by
  fun_induction Program.settle program before after position fuel stack seen with
  | case1 => exact fun _ hmem => absurd hmem List.not_mem_nil
  | case2 => exact h
  | case3 fuel thread stack seen hseen ih => exact ih (List.forall_mem_cons.mp h).right
  | case4 fuel thread stack seen hseen marked preferred other hstep ih =>
      rcases List.forall_mem_cons.mp h with ⟨hthread, hstack⟩
      apply ih
      exact List.forall_mem_cons.mpr
        ⟨hthread.goTo preferred, List.forall_mem_cons.mpr ⟨hthread.goTo other, hstack⟩⟩
  | case5 fuel thread stack seen hseen marked slot next hstep ih =>
      rcases List.forall_mem_cons.mp h with ⟨hthread, hstack⟩
      exact ih (List.forall_mem_cons.mpr ⟨hthread.mark slot next, hstack⟩)
  | case6 fuel thread stack seen hseen marked assertion next hstep hholds ih =>
      rcases List.forall_mem_cons.mp h with ⟨hthread, hstack⟩
      exact ih (List.forall_mem_cons.mpr ⟨hthread.goTo next, hstack⟩)
  | case7 fuel thread stack seen hseen marked assertion next hstep hholds ih =>
      exact ih (List.forall_mem_cons.mp h).right
  | case8 fuel thread stack seen hseen marked set next hstep ih =>
      rcases List.forall_mem_cons.mp h with ⟨hthread, hstack⟩
      exact List.forall_mem_cons.mpr ⟨hthread, ih hstack⟩
  | case9 fuel thread stack seen hseen marked hstep ih =>
      rcases List.forall_mem_cons.mp h with ⟨hthread, hstack⟩
      exact List.forall_mem_cons.mpr ⟨hthread, ih hstack⟩
  | case10 fuel thread stack seen hseen marked hstep ih =>
      exact ih (List.forall_mem_cons.mp h).right

/-- The threads that go on, and the match that was found, if any. -/
theorem advance_within (after : Option Char)
    (h : ∀ thread ∈ threads, thread.Within low position) :
    (∀ thread ∈ (program.advance after position threads).1, thread.Within low position) ∧
      ∀ finding ∈ (program.advance after position threads).2, finding.Within low position := by
  fun_induction Program.advance program after position threads with
  | case1 =>
      constructor
      · exact h
      · intro finding hfinding
        cases hfinding
  | case2 thread threads hstep =>
      constructor
      · intro thread hmem
        cases hmem
      · intro finding hfinding
        cases hfinding
        exact (List.forall_mem_cons.mp h).left.accept
  | case3 thread threads set next hstep moved found hadvance hset ih =>
      rcases List.forall_mem_cons.mp h with ⟨hthread, hthreads⟩
      rw [hadvance] at ih
      rcases ih hthreads with ⟨hmoved, hfound⟩
      exact ⟨List.forall_mem_cons.mpr ⟨hthread.goTo next, hmoved⟩, hfound⟩
  | case4 thread threads set next hstep moved found hadvance hset ih =>
      rw [hadvance] at ih
      exact ih (List.forall_mem_cons.mp h).right
  | case5 thread threads haccept hread ih => exact ih (List.forall_mem_cons.mp h).right

theorem seed_within (hlow : low ≤ position) :
    ∀ thread ∈ program.seed position best, thread.Within low position := by
  intro thread hmem
  unfold seed at hmem
  split at hmem
  · cases hmem
  · rw [List.mem_singleton.mp hmem]
    refine ⟨hlow, Nat.le_refl _, ?_⟩
    intro mark hmark
    cases hmark

theorem turn_within (before after : Option Char) (hlow : low ≤ position)
    (hthreads : ∀ thread ∈ threads, thread.Within low position)
    (hbest : ∀ finding ∈ best, finding.Within low position) :
    (∀ thread ∈ (program.turn threads best before after position).1,
        thread.Within low position) ∧
      ∀ finding ∈ (program.turn threads best before after position).2,
        finding.Within low position := by
  have hstack : ∀ thread ∈ threads ++ program.seed position best,
      thread.Within low position := by
    intro thread hmem
    rcases List.mem_append.mp hmem with hold | hnew
    · exact hthreads thread hold
    · exact seed_within hlow thread hnew
  rcases advance_within after (settle_within hstack) with ⟨hmoved, hfound⟩
  constructor
  · exact hmoved
  · intro finding hfinding
    rcases Option.or_eq_some_iff.mp hfinding with hnow | ⟨_, hearlier⟩
    · exact hfound finding hnow
    · exact hbest finding hearlier

/-!
# Searches
-/

theorem searchFrom_within {text : Text} (hlow : low ≤ position)
    (hthreads : ∀ thread ∈ threads, thread.Within low position)
    (hbest : ∀ finding ∈ best, finding.Within low position) :
    ∀ finding ∈ program.searchFrom threads best before position text,
      finding.Within low (position + text.length) := by
  induction text generalizing threads best before position with
  | nil => exact (turn_within before none hlow hthreads hbest).right
  | cons c rest ih =>
      have hend : position + (c :: rest).length = position + 1 + rest.length := by
        rw [List.length_cons]
        omega
      rcases turn_within before (some c) hlow hthreads hbest with ⟨hmoved, hfound⟩
      rw [hend]
      unfold searchFrom
      simp only
      split
      · intro finding hfinding
        apply (hfound finding hfinding).mono
        omega
      · apply ih (Nat.le_succ_of_le hlow)
        · intro thread hmem
          exact (hmoved thread hmem).mono (Nat.le_succ _)
        · intro finding hfinding
          exact (hfound finding hfinding).mono (Nat.le_succ _)

theorem search_within {text : Text} {start : Nat} (hstart : start ≤ text.length)
    (h : program.search text start = some finding) : finding.Within start text.length := by
  have hwithin : finding.Within start (start + (text.drop start).length) := by
    refine searchFrom_within (Nat.le_refl start) ?_ ?_ finding h
    · intro thread hmem
      cases hmem
    · intro earlier hearlier
      cases hearlier
  rw [List.length_drop, Nat.add_sub_cancel' hstart] at hwithin
  exact hwithin

end Program

/-!
# Single matches
-/

theorem Span.ofEnds?_eq_some {start stop : Nat} {span : Span}
    (h : Span.ofEnds? start stop = some span) : span.start = start ∧ span.stop = stop := by
  unfold Span.ofEnds? at h
  split at h
  · cases h
    exact ⟨rfl, rfl⟩
  · cases h

/-- A match between two positions of a text, with its groups inside it. -/
structure Match.Within (low high : Nat) (found : Match) : Prop where
  low_le_start : low ≤ found.whole.start
  stop_le_high : found.whole.stop ≤ high
  groups : ∀ number span, found.group? number = some span ->
    found.whole.start ≤ span.start ∧ span.stop ≤ found.whole.stop

theorem Match.Within.low_le_stop {found : Match} (h : found.Within low high) :
    low ≤ found.whole.stop :=
  Nat.le_trans h.low_le_start found.whole.start_le_stop

theorem Match.Within.lower {found : Match} {lower : Nat} (h : found.Within low high)
    (hlower : lower ≤ low) : found.Within lower high :=
  ⟨Nat.le_trans hlower h.low_le_start, h.stop_le_high, h.groups⟩

namespace Pattern

variable {pattern : Pattern} {text : Text} {start : Nat} {behind : Bool} {found : Match}

theorem mem_of_lookup {marks : List (Nat × Nat)} {slot mark : Nat}
    (h : marks.lookup slot = some mark) : (slot, mark) ∈ marks := by
  rcases List.lookup_eq_some_iff.mp h with ⟨front, back, rfl, _⟩
  exact List.mem_append_right front List.mem_cons_self

theorem groupSpan?_marks {marks : List (Nat × Nat)} {group : Nat} {span : Span}
    (h : groupSpan? marks group = some span) :
    (∃ slot, (slot, span.start) ∈ marks) ∧ ∃ slot, (slot, span.stop) ∈ marks := by
  unfold groupSpan? at h
  split at h
  · next opened closed hopen hclose =>
      rcases Span.ofEnds?_eq_some h with ⟨rfl, rfl⟩
      exact ⟨⟨_, mem_of_lookup hopen⟩, ⟨_, mem_of_lookup hclose⟩⟩
  · cases h

theorem matchOfFinding?_within {groupCount : Nat} (hfinding : finding.Within low high)
    (h : matchOfFinding? groupCount finding = some found) : found.Within low high := by
  rcases Option.map_eq_some_iff.mp h with ⟨whole, hwhole, rfl⟩
  rcases Span.ofEnds?_eq_some hwhole with ⟨hstart, hstop⟩
  constructor
  · rw [hstart]
    exact hfinding.low_le_start
  · rw [hstop]
    exact hfinding.stop_le_high
  · intro number span hgroup
    cases number with
    | zero =>
        cases hgroup
        exact ⟨Nat.le_refl _, Nat.le_refl _⟩
    | succ number =>
        have hmember : some span ∈ (List.range groupCount).map fun k =>
            groupSpan? finding.marks (k + 1) :=
          List.mem_of_getElem? (Option.join_eq_some_iff.mp hgroup)
        rcases List.mem_map.mp hmember with ⟨k, _, hspan⟩
        rcases groupSpan?_marks hspan with ⟨⟨_, hopened⟩, ⟨_, hclosed⟩⟩
        rw [hstart, hstop]
        exact ⟨(hfinding.marks _ hopened).left, (hfinding.marks _ hclosed).right⟩

theorem find?_within (h : pattern.find? text start = some found) :
    found.Within start text.length := by
  unfold find? at h
  split at h
  · next hstart =>
      rcases Option.bind_eq_some_iff.mp h with ⟨finding, hsearch, hfound⟩
      exact matchOfFinding?_within (Program.search_within hstart hsearch) hfound
  · cases h

theorem find?_eq_none (h : text.length < start) : pattern.find? text start = none := by
  unfold find?
  rw [if_neg (Nat.not_le.mpr h)]

/-!
# Successive matches

The next match stops further right than the previous one, so there are at most as
many matches as places in the text, and looking for that many finds them all.
-/

theorem nextMatch?_within (h : pattern.nextMatch? text start behind = some found) :
    found.Within start text.length ∧ (behind = true -> start < found.whole.stop) := by
  unfold nextMatch? at h
  split at h
  · cases h
  · next first hfirst =>
      have hwithin := find?_within hfirst
      split at h
      · have hlater := find?_within h
        exact ⟨hlater.lower (Nat.le_succ start), fun _ => hlater.low_le_stop⟩
      · next hplain =>
          cases h
          refine ⟨hwithin, ?_⟩
          intro hbehind
          have hlow := hwithin.low_le_start
          have horder := found.whole.start_le_stop
          apply Nat.lt_of_not_le
          intro hstop
          apply hplain
          have hstart : found.whole.start = start := by omega
          have hempty : found.whole.start = found.whole.stop := by omega
          simp only [hbehind, Span.isEmpty, ← hempty, hstart, beq_self_eq_true, Bool.and_self]

theorem nextMatch?_eq_none (h : text.length < start) :
    pattern.nextMatch? text start behind = none := by
  unfold nextMatch?
  rw [find?_eq_none h]

/-- Matches as they are found one behind the other, until there is none. -/
inductive Successive (pattern : Pattern) (text : Text) : Nat -> Bool -> List Match -> Prop where
  | done {start : Nat} {behind : Bool} :
      pattern.nextMatch? text start behind = none ->
      Successive pattern text start behind []
  | found {start : Nat} {behind : Bool} {found : Match} {later : List Match} :
      pattern.nextMatch? text start behind = some found ->
      Successive pattern text found.whole.stop true later ->
      Successive pattern text start behind (found :: later)

theorem matchesFrom_successive {fuel : Nat}
    (hfuel : text.length + 2 ≤ fuel + start + behind.toNat) :
    pattern.Successive text start behind (pattern.matchesFrom text fuel start behind) := by
  induction fuel generalizing start behind with
  | zero =>
      have hbehind := Bool.toNat_le behind
      exact .done (nextMatch?_eq_none (by omega))
  | succ fuel ih =>
      unfold matchesFrom
      cases hnext : pattern.nextMatch? text start behind with
      | none => exact .done hnext
      | some found =>
          rcases nextMatch?_within hnext with ⟨hwithin, hfurther⟩
          apply Successive.found hnext
          apply ih
          have hlow := hwithin.low_le_start
          have horder := found.whole.start_le_stop
          cases behind with
          | true =>
              have hstop := hfurther rfl
              simp only [Bool.toNat_true] at hfuel ⊢
              omega
          | false =>
              simp only [Bool.toNat_true, Bool.toNat_false] at hfuel ⊢
              omega

theorem matchesIn_successive (pattern : Pattern) (text : Text) :
    pattern.Successive text 0 false (pattern.matchesIn text) :=
  matchesFrom_successive (Nat.le_refl _)

/-- Successive matches are in order: none reaches into another, and none stops where one did. -/
theorem Successive.ordered {found : List Match} (h : pattern.Successive text start behind found) :
    (∀ one ∈ found, one.Within start text.length ∧ (behind = true -> start < one.whole.stop)) ∧
      found.Pairwise fun earlier later =>
        earlier.whole.stop ≤ later.whole.start ∧ earlier.whole.stop < later.whole.stop := by
  induction h with
  | done _ => exact ⟨fun _ hmem => (nomatch hmem), List.Pairwise.nil⟩
  | found hnext _ ih =>
      rcases ih with ⟨hlater, hordered⟩
      rcases nextMatch?_within hnext with ⟨hfirst, hfurther⟩
      constructor
      · intro one hmem
        rcases List.mem_cons.mp hmem with rfl | hbehind
        · exact ⟨hfirst, hfurther⟩
        · rcases hlater one hbehind with ⟨hone, hstop⟩
          exact ⟨hone.lower hfirst.low_le_stop,
            fun _ => Nat.lt_of_le_of_lt hfirst.low_le_stop (hstop rfl)⟩
      · apply List.Pairwise.cons
        · intro one hmem
          rcases hlater one hmem with ⟨hone, hstop⟩
          exact ⟨hone.low_le_start, hstop rfl⟩
        · exact hordered

theorem matchesIn_ordered (pattern : Pattern) (text : Text) :
    (∀ one ∈ pattern.matchesIn text, one.Within 0 text.length) ∧
      (pattern.matchesIn text).Pairwise fun earlier later =>
        earlier.whole.stop ≤ later.whole.start ∧ earlier.whole.stop < later.whole.stop := by
  rcases (matchesIn_successive pattern text).ordered with ⟨hwithin, hordered⟩
  exact ⟨fun one hmem => (hwithin one hmem).left, hordered⟩

theorem matchesIn_eq_nil_iff : pattern.matchesIn text = [] ↔ pattern.isMatch text = false := by
  have hsuccessive := matchesIn_successive pattern text
  have hfirst : pattern.nextMatch? text 0 false = pattern.find? text 0 := by
    unfold nextMatch?
    cases pattern.find? text 0 with
    | none => rfl
    | some found => rfl
  unfold isMatch
  rw [← hfirst]
  constructor
  · intro hnone
    rw [hnone] at hsuccessive
    cases hsuccessive with
    | done hnext => rw [hnext, Option.isSome_none]
  · intro hmatch
    generalize pattern.matchesIn text = every at hsuccessive
    cases hsuccessive with
    | done _ => rfl
    | found hnext _ =>
        rw [hnext] at hmatch
        cases hmatch

/-!
# Evaluated patterns
-/

/-- A pattern that compiles, with what an evaluation says of it. -/
theorem exists_of_map_compile_eq {α : Type} {source : Text} {value : α} {evaluate : Pattern -> α}
    (h : (compile source).toOption.map evaluate = some value) :
    ∃ pattern, compile source = .ok pattern ∧ evaluate pattern = value := by
  cases hpattern : compile source with
  | error error =>
      rw [hpattern] at h
      cases h
  | ok pattern =>
      rw [hpattern] at h
      exact ⟨pattern, rfl, Option.some.inj h⟩

end Pattern
end LinePalette
