import MailMerge.Proofs.Regex.Language
import MailMerge.Proofs.Regex.Steps

/-!
# Patterns in a simplified form

Where one pattern simplifies to another (`SimplifiesTo`), the two match the same and in the same
order (`SimplifiesTo.leftmostFirst_iff`), and so do patterns that have them as parts. The functions
that build patterns in a simplified form only do so by such steps (`sameWays_concat`,
`simplifiesTo_alternate`, `simplifiesTo_repeat`), with one exception: what alternatives start with
may stand before them only if it leaves no choice (`isFixed`).
-/

namespace MailMerge.Regex.Pattern

variable {text : Array Char} {p q r p' q' : Pattern} {ps qs : List Pattern} {i j : Nat}

/-- Whether a pattern can be replaced by another one by steps of simplification. -/
def SimplifiesTo (text : Array Char) (p q : Pattern) : Prop :=
  ∃ f g, Simplification text p q f g

theorem SameWays.simplifiesTo (h : SameWays p q) : SimplifiesTo text p q := by
  refine ⟨id, id, .of_rel (R := fun i v w j => v = w ∧ Way text p i v j) ?_ ?_ ?_ ?_⟩
  · rintro i v _ j ⟨rfl, hv⟩ hdirect
    have hdirect : IsDirect v := hdirect.elim id id
    exact ⟨hv, h.way_iff.mp hv, hdirect, hdirect, Set.mapsTo_id _, Set.mapsTo_id _⟩
  · exact fun hv => ⟨_, rfl, hv⟩
  · exact fun hw => ⟨_, rfl, h.way_iff.mpr hw⟩
  -- the same ways on both sides, so one order
  · rintro i v _ j v' _ k ⟨rfl, -⟩ ⟨rfl, -⟩ hlt
    exact hlt

namespace SimplifiesTo

theorem refl (p : Pattern) : SimplifiesTo text p p := (SameWays.refl p).simplifiesTo

theorem trans (h : SimplifiesTo text p q) (h' : SimplifiesTo text q r) :
    SimplifiesTo text p r := by
  obtain ⟨_, _, h⟩ := h
  obtain ⟨_, _, h'⟩ := h'
  exact ⟨_, _, h.trans h'⟩

instance : Trans (SimplifiesTo text) (SimplifiesTo text) (SimplifiesTo text) := ⟨trans⟩

theorem seq (h : SimplifiesTo text p p') (h' : SimplifiesTo text q q') :
    SimplifiesTo text (.seq p q) (.seq p' q') := by
  obtain ⟨_, _, h⟩ := h
  obtain ⟨_, _, h'⟩ := h'
  exact ⟨_, _, h.seq h'⟩

theorem alt (h : SimplifiesTo text p p') (h' : SimplifiesTo text q q') :
    SimplifiesTo text (.alt p q) (.alt p' q') := by
  obtain ⟨_, _, h⟩ := h
  obtain ⟨_, _, h'⟩ := h'
  exact ⟨_, _, h.alt h'⟩

theorem group (n : Nat) (h : SimplifiesTo text p q) :
    SimplifiesTo text (.group n p) (.group n q) :=
  (sameWays_group n p).simplifiesTo.trans (h.trans (sameWays_group n q).symm.simplifiesTo)

theorem optional (greedy : Bool) (h : SimplifiesTo text p q) :
    SimplifiesTo text (optional greedy p) (Pattern.optional greedy q) := by
  cases greedy with
  | true => exact h.alt (.refl _)
  | false => exact (refl _).alt h

theorem plus (greedy : Bool) (h : SimplifiesTo text p q) :
    SimplifiesTo text (.repeated greedy 1 none p) (.repeated greedy 1 none q) := by
  obtain ⟨_, _, h⟩ := h
  exact ⟨_, _, h.plus⟩

theorem unrolled {greedy : Bool} {lo : Nat} {hi : Option Nat}
    (hp : unrolled? greedy p lo hi = some p') (hq : unrolled? greedy q lo hi = some q')
    (h : SimplifiesTo text p' q') :
    SimplifiesTo text (.repeated greedy lo hi p) (.repeated greedy lo hi q) :=
  (sameWays_unrolled hp).simplifiesTo.trans (h.trans (sameWays_unrolled hq).symm.simplifiesTo)

theorem repeated (greedy : Bool) (lo : Nat) (hi : Option Nat) (h : SimplifiesTo text p q) :
    SimplifiesTo text (.repeated greedy lo hi p) (.repeated greedy lo hi q) := by
  induction lo generalizing hi with
  -- the lower bound, and at zero the upper one, as repetitions are unrolled
  | zero =>
      cases hi with
      | none => exact .unrolled rfl rfl ((h.plus greedy).optional greedy)
      | some hi =>
          induction hi with
          | zero => exact .unrolled rfl rfl (.refl _)
          | succ hi ih => exact .unrolled rfl rfl ((h.seq ih).optional greedy)
  | succ lo ih =>
      cases hi with
      | some hi => exact .unrolled rfl rfl (h.seq (ih _))
      | none =>
          cases lo with
          | zero => exact h.plus greedy
          | succ lo => exact .unrolled rfl rfl (h.seq (ih _))

/-! ### First matches

From a first match on one side the mirror leads to a way on the other. That nothing comes
before it is the second half of being a simplification. The other direction needs no second
argument: there is a first match on the left, it is one on the right, and that one is
unique. -/

theorem matches_iff (h : SimplifiesTo text p q) : p.Matches text i j ↔ q.Matches text i j := by
  obtain ⟨f, g, h⟩ := h
  refine and_congr_right fun hi => ⟨?_, ?_⟩
  · rintro ⟨w, hw⟩
    obtain ⟨v, hv, hdirect⟩ := hw.exists_direct
    obtain ⟨w, hw, -⟩ := h.exists_right hi hv hdirect
    exact ⟨w, hw.right⟩
  · rintro ⟨w, hw⟩
    obtain ⟨w, hw, hdirect⟩ := hw.exists_direct
    obtain ⟨v, hv⟩ := h.exists_left hi hw hdirect
    exact ⟨v, hv.left⟩

theorem firstMatch (h : SimplifiesTo text p q) (hp : p.FirstMatch text i j) :
    q.FirstMatch text i j := by
  obtain ⟨f, g, h⟩ := h
  obtain ⟨hi, v, hv, hdirect, hleast⟩ := firstMatch_iff.mp hp
  obtain ⟨w, hw, hbefore⟩ := h.exists_right hi hv hdirect
  refine firstMatch_iff.mpr ⟨hi, w, hw.right, hw.right_direct, fun w' k hw' hdirect' hlt => ?_⟩
  obtain ⟨v', hv', hlt⟩ := hbefore w' k hw' hdirect' hlt
  exact hleast v' k hv'.left hv'.left_direct hlt

theorem firstMatch_iff (h : SimplifiesTo text p q) :
    p.FirstMatch text i j ↔ q.FirstMatch text i j := by
  refine ⟨h.firstMatch, fun hq => ?_⟩
  -- what comes first on the left comes first on the right, so it is `j`
  obtain ⟨k, hp⟩ := (h.matches_iff.mpr hq.matches).exists_firstMatch
  rwa [(h.firstMatch hp).unique hq] at hp

theorem leftmostFirst_iff (h : SimplifiesTo text p q) {start : Nat} {m : Match} :
    p.LeftmostFirst text start m ↔ q.LeftmostFirst text start m := by
  constructor
  · rintro ⟨hle, hbefore, hfirst⟩
    refine ⟨hle, fun k hk hlt j hm => ?_, h.firstMatch_iff.mp hfirst⟩
    exact hbefore k hk hlt j (h.matches_iff.mpr hm)
  · rintro ⟨hle, hbefore, hfirst⟩
    refine ⟨hle, fun k hk hlt j hm => ?_, h.firstMatch_iff.mpr hfirst⟩
    exact hbefore k hk hlt j (h.matches_iff.mp hm)

end SimplifiesTo

/-! ### Alternatives

Alternatives are written out of one another by regrouping, one by one, and classes are
joined from the right. Neither changes which alternative comes first. -/

theorem simplifiesTo_ofBranches_append (hps : ps ≠ []) (hqs : qs ≠ []) :
    SimplifiesTo text (.alt (ofBranches ps) (ofBranches qs)) (ofBranches (ps ++ qs)) := by
  obtain ⟨r, rs, rfl⟩ := List.exists_cons_of_ne_nil hqs
  induction ps with
  | nil => exact absurd rfl hps
  | cons p ps ih =>
      cases ps with
      | nil => exact .refl _
      | cons p' ps =>
          -- the first alternative moves out, the others follow by induction
          have hregroup : SimplifiesTo text (.alt (.alt p (ofBranches (p' :: ps))) _) _ :=
            ⟨_, _, simplification_regroup p _ (ofBranches (r :: rs))⟩
          exact hregroup.trans (.alt (.refl p) (ih (List.cons_ne_nil _ _)))

theorem branches_ne_nil (p : Pattern) : p.branches ≠ [] := by
  induction p with
  | alt p q ihp ihq => simp [branches, ihp]
  | _ => exact List.cons_ne_nil _ _

theorem simplifiesTo_branches (p : Pattern) : SimplifiesTo text p (ofBranches p.branches) := by
  induction p with
  | alt p q ihp ihq =>
      exact (ihp.alt ihq).trans
        (simplifiesTo_ofBranches_append (branches_ne_nil p) (branches_ne_nil q))
  | _ => exact .refl _

/-- Alternatives of alternatives are written out. -/
theorem simplifiesTo_flatMap_branches (ps : List Pattern) :
    SimplifiesTo text (ofBranches ps) (ofBranches (ps.flatMap branches)) := by
  induction ps with
  | nil => exact .refl _
  | cons p ps ih =>
      cases ps with
      | nil =>
          rw [List.flatMap_singleton]
          exact simplifiesTo_branches p
      | cons p' ps =>
          refine ((simplifiesTo_branches p).alt ih).trans
            (simplifiesTo_ofBranches_append (branches_ne_nil p) ?_)
          simp [branches_ne_nil]

theorem SimplifiesTo.ofBranches (h : List.Forall₂ (SimplifiesTo text) ps qs) :
    SimplifiesTo text (ofBranches ps) (Pattern.ofBranches qs) := by
  induction h with
  | nil => exact .refl _
  | cons hp hps ih =>
      cases hps with
      | nil => exact hp
      | cons => exact hp.alt ih

theorem SimplifiesTo.ofItems (h : List.Forall₂ (SimplifiesTo text) ps qs) :
    SimplifiesTo text (ofItems ps) (Pattern.ofItems qs) := by
  induction h with
  | nil => exact .refl _
  | cons hp hps ih =>
      cases hps with
      | nil => exact hp
      | cons => exact hp.seq ih

/-- Alternatives between classes can be one class. -/
theorem simplifiesTo_chars {cs : List CharClass} {u : CharClass}
    (hu : ∀ x, u.contains x = true ↔ ∃ c ∈ cs, c.contains x = true) :
    SimplifiesTo text (ofBranches (cs.map chars)) (.chars u) := by
  induction cs generalizing u with
  | nil =>
      refine (sameWays_chars fun x => ?_).simplifiesTo
      rw [Bool.eq_iff_iff, hu]
      simp [CharSet.contains, CharSet.has, CharClass.empty, CharSet.empty]
  | cons c cs ih =>
      cases cs with
      | nil =>
          refine (sameWays_chars fun x => ?_).simplifiesTo
          rw [Bool.eq_iff_iff, hu]
          simp
      | cons d cs =>
          -- all but the first become one class, which then becomes one with the first
          let v : CharClass := .of true (.unions ((d :: cs).map (·.toCharSet)))
          have hv (x : Char) : v.contains x = true ↔ ∃ c ∈ d :: cs, c.contains x = true :=
            contains_of_unions
          refine ((SimplifiesTo.refl (.chars c)).alt (ih hv)).trans
            ⟨_, _, simplification_join fun x => ?_⟩
          rw [hu, hv]
          simp

theorem simplifiesTo_ofAlternatives (ps : List Pattern) :
    SimplifiesTo text (ofBranches ps) (ofAlternatives ps) := by
  rcases ofAlternatives_cases ps with h | ⟨cs, c, rfl, hc, h⟩
  · rw [h]
    exact .refl _
  · rw [h]
    exact simplifiesTo_chars (contains_of_joined? hc)

/-! ### Common starts

What alternatives share can be taken out if it is a sequence of steps. Anything without a
choice is one, once repetitions are unrolled; so the induction takes the pattern apart down
to sets of characters and assertions. -/

/-- Whether a pattern leaves no choice. -/
def isFixed : Pattern → Bool
  | .empty | .chars _ | .look _ => true
  | .group _ p => p.isFixed
  | .seq p q => p.isFixed && q.isFixed
  | .alt .. | .repeated _ _ none _ => false
  | .repeated _ min (some max) p => max ≤ min && p.isFixed

theorem isFixed_of_unrolled? {greedy : Bool} {min : Nat} {max : Option Nat}
    (h : unrolled? greedy p min max = some q) (hp : (repeated greedy min max p).isFixed = true) :
    q.isFixed = true := by
  unfold unrolled? at h
  split at h
  all_goals cases h
  · rfl
  · simp [isFixed] at hp
  -- a number of rounds that is fixed unrolls into rounds and a fixed number of them
  · simp only [isFixed, Bool.and_eq_true, decide_eq_true_eq] at hp ⊢
    exact ⟨hp.2, by omega, hp.2⟩
  · simp [isFixed] at hp
  · simp [isFixed] at hp

/-- What leaves no choice can stand before alternatives instead of in each of them. -/
theorem simplifiesTo_lift (hp : p.isFixed = true) (a b : Pattern) :
    SimplifiesTo text (.alt (.seq p a) (.seq p b)) (.seq p (.alt a b)) := by
  induction p using unrolled_induction generalizing a b with
  -- nothing is taken out
  | empty =>
      have hseq (a : Pattern) := sameWays_empty_seq a
      exact ((hseq a).simplifiesTo.alt (hseq b).simplifiesTo).trans (hseq _).symm.simplifiesTo
  | chars s => exact ⟨_, _, simplification_lift (isStep_chars s) a b⟩
  | look l => exact ⟨_, _, simplification_lift (isStep_look l) a b⟩
  | group n p ih =>
      have hseq (a : Pattern) := (sameWays_group n p).seq (.refl a)
      exact ((hseq a).simplifiesTo.alt (hseq b).simplifiesTo).trans
        ((ih hp a b).trans (hseq _).symm.simplifiesTo)
  | seq p q ihp ihq =>
      rw [isFixed, Bool.and_eq_true] at hp
      have hseq (a : Pattern) := sameWays_seq_assoc p q a
      calc
        SimplifiesTo text (.alt (.seq (.seq p q) a) (.seq (.seq p q) b))
            (.alt (.seq p (.seq q a)) (.seq p (.seq q b))) :=
          .alt (hseq a).simplifiesTo (hseq b).simplifiesTo
        -- first `p`, then behind it `q`
        SimplifiesTo text _ (.seq p (.alt (.seq q a) (.seq q b))) := ihp hp.1 _ _
        SimplifiesTo text _ (.seq p (.seq q (.alt a b))) := .seq (.refl p) (ihq hp.2 a b)
        SimplifiesTo text _ (.seq (.seq p q) (.alt a b)) := (hseq _).symm.simplifiesTo
  | alt => cases hp
  | plus => cases hp
  | unrolled greedy p min max q hq ih =>
      have hseq (a : Pattern) := (sameWays_unrolled hq).seq (.refl a)
      exact ((hseq a).simplifiesTo.alt (hseq b).simplifiesTo).trans
        ((ih (isFixed_of_unrolled? hq hp) a b).trans (hseq _).symm.simplifiesTo)

theorem simplifiesTo_lift_all (hp : p.isFixed = true) (hps : ps ≠ []) :
    SimplifiesTo text (ofBranches (ps.map (.seq p))) (.seq p (ofBranches ps)) := by
  induction ps with
  | nil => exact absurd rfl hps
  | cons a ps ih =>
      cases ps with
      | nil => exact .refl _
      | cons b ps =>
          exact ((SimplifiesTo.refl _).alt (ih (List.cons_ne_nil _ _))).trans
            (simplifiesTo_lift hp a _)

theorem isFixed_ofItems (h : ∀ p ∈ ps, p.isFixed = true) : (ofItems ps).isFixed = true := by
  induction ps with
  | nil => rfl
  | cons p ps ih =>
      rw [List.forall_mem_cons] at h
      cases ps with
      | nil => exact h.1
      | cons q ps => exact Bool.and_eq_true_iff.mpr ⟨h.1, ih h.2⟩

theorem simplifiesTo_lifted {shared : List Pattern} (hps : ps ≠ [])
    (hfixed : ∀ p ∈ shared, p.isFixed = true) (h : ∀ p ∈ ps, shared <+: p.items) :
    SimplifiesTo text (ofBranches ps) (concat (shared ++ [ofAlternatives ((ps.map fun p =>
      ofItems (p.items.drop shared.length)).flatMap branches)])) := by
  let rest (p : Pattern) : Pattern := ofItems (p.items.drop shared.length)
  -- each alternative is what is shared and its own rest
  have hwhole (p : Pattern) (hp : p ∈ ps) : SameWays p (.seq (ofItems shared) (rest p)) := by
    obtain ⟨tail, htail⟩ := h p hp
    have hrest : rest p = ofItems tail := by simp only [rest, ← htail, List.drop_left]
    rw [hrest]
    refine (sameWays_items p).symm.trans ?_
    rw [← htail]
    exact sameWays_ofItems_append _ _
  calc
    SimplifiesTo text (ofBranches ps) (ofBranches ((ps.map rest).map (.seq (ofItems shared)))) := by
        refine .ofBranches ?_
        rw [List.map_map, List.forall₂_map_right_iff, List.forall₂_same]
        exact fun p hp => (hwhole p hp).simplifiesTo
    SimplifiesTo text _ (.seq (ofItems shared) (ofBranches (ps.map rest))) :=
      simplifiesTo_lift_all (isFixed_ofItems hfixed) (by simpa using hps)
    SimplifiesTo text _ (.seq (ofItems shared) (ofAlternatives ((ps.map rest).flatMap branches))) :=
      -- the rests are alternatives again, with what is in them written out and joined
      .seq (.refl _) ((simplifiesTo_flatMap_branches _).trans (simplifiesTo_ofAlternatives _))
    SimplifiesTo text _ (concat (shared ++ [ofAlternatives ((ps.map rest).flatMap branches)])) :=
      ((sameWays_concat _).trans (sameWays_ofItems_append shared [_])).symm.simplifiesTo

/-- Taking out what alternatives start with changes nothing if it leaves no choice. -/
theorem simplifiesTo_alternate
    (h : ∀ p ∈ sharedStart (ps.flatMap branches), p.isFixed = true) :
    SimplifiesTo text (ofBranches ps) (alternate ps) := by
  refine (simplifiesTo_flatMap_branches ps).trans ?_
  rw [alternate]
  dsimp only
  split
  · exact simplifiesTo_ofAlternatives _
  · next hshared =>
      -- without alternatives there is nothing that they share
      have hne : ps.flatMap branches ≠ [] := by
        intro hnil
        rw [hnil] at hshared
        exact hshared rfl
      exact simplifiesTo_lifted hne h fun p => sharedStart_prefix

/-! ### Repetitions

Of a repetition only two things are changed: a pattern that matches the empty text alone is
repeated at most once, and a single round is no repetition. The first is no step that keeps
ways, so it goes back to what is matched. -/

theorem simplifiesTo_repeat {greedy : Bool} {lo : Nat} {hi : Option Nat} (hhi : hi ≠ some 0) :
    SimplifiesTo text (.repeated greedy lo hi p) (.repeat greedy lo hi p) := by
  by_cases hp : p.isEmptyOnly = true
  · refine ⟨_, _, simplification_of_empty (fun i j => ?_) fun i j => (matches_repeat hhi).symm⟩
    exact eq_of_isEmptyOnly hp
  · simp only [Pattern.repeat, if_neg hp, if_neg hhi]
    split
    · next hone =>
        obtain ⟨rfl, rfl⟩ := hone
        exact (sameWays_once greedy p).simplifiesTo
    · exact .refl _

end MailMerge.Regex.Pattern
