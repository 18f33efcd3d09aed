import MailMerge.Proofs.Regex.Simplification

/-!
# Steps of simplification

The rules that patterns are simplified by: alternatives are nested to the right
(`simplification_regroup`), two sets of characters become one (`simplification_join`), what two
alternatives start with stands before them if it is a single part that leaves no choice
(`simplification_lift`), and what matches nothing but the empty text may be replaced by anything
that matches it at the same places (`simplification_of_empty`).

The first three are given by saying which ways belong together, and where the spots of one lie in
the other (`Simplification.of_rel`).
-/

namespace MailMerge.Regex

variable {text : Array Char} {p q : Pattern} {f g : Spot → Spot} {v w : List Visit} {i j d : Nat}

/-- Ways that belong together make a simplification if they mirror each other and stand in the same
order. -/
theorem Simplification.of_rel {R : Nat → List Visit → List Visit → Nat → Prop}
    (mirrors : ∀ {i v w j}, R i v w j → IsDirect v ∨ IsDirect w → Mirrors text p q f g i v w j)
    (left : ∀ {i v j}, Way text p i v j → ∃ w, R i v w j)
    (right : ∀ {i w j}, Way text q i w j → ∃ v, R i v w j)
    (order : ∀ {i v w j v' w' k}, R i v w j → R i v' w' k → Precedes w' w → Precedes v' v) :
    Simplification text p q f g where
  exists_left _ hw hdirect := by
    obtain ⟨v, hv⟩ := right hw
    -- any way of `q` will do: it belongs to one of `p`, and the pair is a mirror as a whole
    exact ⟨v, mirrors hv (.inr hdirect)⟩
  exists_right _ hv hdirect := by
    obtain ⟨w, hw⟩ := left hv
    refine ⟨w, mirrors hw (.inl hdirect), fun w' k hw' hdirect' hlt => ?_⟩
    -- a way of `q` before `w` belongs to a way of `p`, which by `order` is before `v`
    obtain ⟨v', hv'⟩ := right hw'
    exact ⟨v', mirrors hv' (.inr hdirect'), order hw hv' hlt⟩

/-! ### Nested alternatives

A pattern is compiled behind what follows it, so the parts of its last alternative come
first. Both forms have `c` at the bottom and `b` above it, and only the choice parts of the
two `alt` and the parts of `a` have different numbers. That is all `regroup` changes. -/

/-- Ways through `(a|b)|c` and `a|(b|c)` that take the same alternative. -/
inductive Regrouped (text : Array Char) (a b c : Pattern) (i : Nat) :
    List Visit → List Visit → Nat → Prop where
  | first {w : List Visit} {j : Nat} : Way text a i w j → Regrouped text a b c i
      (⟨c.parts + (b.parts + a.parts + 1), i, 0⟩ ::
        (⟨b.parts + a.parts, i, 0⟩ :: w.map (.shift b.parts)).map (.shift c.parts))
      (⟨c.parts + b.parts + 1 + a.parts, i, 0⟩ :: w.map (.shift (c.parts + b.parts + 1))) j
  | second {w : List Visit} {j : Nat} : Way text b i w j → Regrouped text a b c i
      (⟨c.parts + (b.parts + a.parts + 1), i, 0⟩ ::
        (⟨b.parts + a.parts, i, 1⟩ :: w).map (.shift c.parts))
      (⟨c.parts + b.parts + 1 + a.parts, i, 1⟩ ::
        ⟨c.parts + b.parts, i, 0⟩ :: w.map (.shift c.parts)) j
  | third {w : List Visit} {j : Nat} : Way text c i w j → Regrouped text a b c i
      (⟨c.parts + (b.parts + a.parts + 1), i, 1⟩ :: w)
      (⟨c.parts + b.parts + 1 + a.parts, i, 1⟩ :: ⟨c.parts + b.parts, i, 1⟩ :: w) j

/-- Where the spots of `(a|b)|c` lie in `a|(b|c)`. -/
def regroup (a b c : Pattern) (s : Spot) : Spot :=
  if s.1 ≤ c.parts + b.parts then s
  else if s.1 ≤ c.parts + b.parts + a.parts then (s.1 + 1, s.2)
  else (c.parts + b.parts + a.parts + 2, s.2)

/-- Where the spots of `a|(b|c)` lie in `(a|b)|c`. -/
def regroupBack (a b c : Pattern) (s : Spot) : Spot :=
  if s.1 ≤ c.parts + b.parts then s
  else if s.1 = c.parts + b.parts + 1 then (c.parts + b.parts + a.parts + 2, s.2)
  else if s.1 ≤ c.parts + b.parts + a.parts + 1 then (s.1 - 1, s.2)
  else s

namespace Regrouped

variable {a b c : Pattern}

theorem left (h : Regrouped text a b c i v w j) : Way text (.alt (.alt a b) c) i v j := by
  cases h with
  | first h => exact .first (.first h)
  | second h => exact .first (.second h)
  | third h => exact .second h

theorem right (h : Regrouped text a b c i v w j) : Way text (.alt a (.alt b c)) i w j := by
  cases h with
  | first h => exact .first h
  | second h => exact .second (.first h)
  | third h => exact .second (.second h)

theorem isDirect_iff (h : Regrouped text a b c i v w j) : IsDirect v ↔ IsDirect w := by
  cases h with
  | first h =>
      have hab : Way text (.alt a b) i _ j := .first h
      -- two choices in front on the left, where on the right it is one
      exact (isDirect_first hab).trans ((isDirect_first h).trans (isDirect_first h).symm)
  | second h =>
      have hab : Way text (.alt a b) i _ j := .second h
      have hbc : Way text (.alt b c) i _ j := .first h
      refine (isDirect_first hab).trans ((isDirect_second h).trans ?_)
      exact (isDirect_first h).symm.trans (isDirect_second hbc).symm
  -- and one on the left where on the right it is two
  | third h =>
      have hbc : Way text (.alt b c) i _ j := .second h
      exact (isDirect_second h).trans ((isDirect_second h).symm.trans (isDirect_second hbc).symm)

theorem mapsTo (h : Regrouped text a b c i v w j) :
    Set.MapsTo (regroup a b c) (stands v j) (stands w j) := by
  cases h with
  | first h =>
      rw [stands_first, stands_first, stands_first]
      rintro _ (rfl | ⟨_, rfl | ⟨s, hs, rfl⟩, rfl⟩)
      -- the choice of the outer `alt`
      · left
        grind [regroup]
      -- the choice of the inner one
      · left
        grind [regroup, raiseParts, raise]
      -- a spot in `a`, which is one part further up on the right
      · have hle := (h.within_stands hs).1
        refine .inr ⟨s, hs, ?_⟩
        grind [regroup, raiseParts, raise]
  | second h =>
      rw [stands_first, stands_cons, stands_cons, stands_first]
      rintro _ (rfl | ⟨s, rfl | hs, rfl⟩)
      · left
        grind [regroup]
      · left
        grind [regroup, raiseParts, raise]
      · have hle := (h.within_stands hs).1
        refine .inr (.inr ⟨s, hs, ?_⟩)
        grind [regroup, raiseParts, raise]
  | third h =>
      rw [stands_cons, stands_cons, stands_cons]
      rintro s (rfl | hs)
      · left
        grind [regroup]
      -- `c` is at the bottom of both
      · have hle := (h.within_stands hs).1
        rw [regroup, if_pos (by omega)]
        exact .inr (.inr hs)

theorem mapsTo_back (h : Regrouped text a b c i v w j) :
    Set.MapsTo (regroupBack a b c) (stands w j) (stands v j) := by
  cases h with
  | first h =>
      -- the one choice lies where the outer choice of the left is
      rw [stands_first, stands_first, stands_first]
      rintro _ (rfl | ⟨s, hs, rfl⟩)
      · left
        grind [regroupBack]
      · have hle := (h.within_stands hs).1
        refine .inr ⟨_, .inr ⟨s, hs, rfl⟩, ?_⟩
        grind [regroupBack, raiseParts, raise]
  | second h =>
      rw [stands_first, stands_cons, stands_first, stands_cons]
      rintro _ (rfl | rfl | ⟨s, hs, rfl⟩)
      · left
        grind [regroupBack]
      · left
        grind [regroupBack]
      · have hle := (h.within_stands hs).1
        refine .inr ⟨s, .inr hs, ?_⟩
        grind [regroupBack, raiseParts, raise]
  -- both choices before `c` are the outer choice on the left
  | third h =>
      rw [stands_cons, stands_cons, stands_cons]
      rintro s (rfl | rfl | hs)
      · left
        grind [regroupBack]
      · left
        grind [regroupBack]
      · have hle := (h.within_stands hs).1
        rw [regroupBack, if_pos (by omega)]
        exact .inr hs

end Regrouped

/-- Alternatives can be nested to the right. -/
theorem simplification_regroup (a b c : Pattern) :
    Simplification text (.alt (.alt a b) c) (.alt a (.alt b c)) (regroup a b c)
      (regroupBack a b c) := by
  refine .of_rel (R := Regrouped text a b c) (fun h hdirect => ?_) (fun h => ?_) (fun h => ?_) ?_
  · have hv := hdirect.elim id h.isDirect_iff.mpr
    exact ⟨h.left, h.right, hv, h.isDirect_iff.mp hv, h.mapsTo, h.mapsTo_back⟩
  -- the inner choice of the left is taken apart; the right side needs none or one more
  · cases h with
    | first h =>
        cases h with
        | first h => exact ⟨_, .first h⟩
        | second h => exact ⟨_, .second h⟩
    | second h => exact ⟨_, .third h⟩
  · cases h with
    | first h => exact ⟨_, .first h⟩
    | second h =>
        cases h with
        | first h => exact ⟨_, .second h⟩
        | second h => exact ⟨_, .third h⟩
  -- nine pairs of ways: two through the same alternative compare in it, all others by the choice
  · intro i v w j v' w' k h h' hlt
    cases h <;> cases h' <;> simp_all

/-! ### Sets of characters

Two alternatives of one character each have three parts, their set has one. All that can be
told apart on the left is which alternative was taken, and since both read the one character
and end behind it, the second is never needed: the joined set has one way where there were
one or two. -/

/-- Ways through `[s]|[t]` and `[st]`. -/
inductive Joined (text : Array Char) (s t : CharClass) (i : Nat) :
    List Visit → List Visit → Nat → Prop where
  | first : text[i]?.any s.contains = true →
      Joined text s t i [⟨2, i, 0⟩, ⟨1, i, 0⟩] [⟨0, i, 0⟩] (i + 1)
  | second : text[i]?.any t.contains = true →
      Joined text s t i [⟨2, i, 1⟩, ⟨0, i, 0⟩] [⟨0, i, 0⟩] (i + 1)

/-- Where the spots of `[s]|[t]` lie in `[st]`. -/
def joinSpot (s : Spot) : Spot := if s.1 = 0 then s else (1, s.2)

/-- Where the spots of `[st]` lie in `[s]|[t]`: at the choice between the two. -/
def splitSpot (s : Spot) : Spot := if s.1 = 0 then s else (3, s.2)

theorem mapsTo_join {n c : Nat} :
    Set.MapsTo joinSpot (stands [⟨2, i, c⟩, ⟨n, i, 0⟩] j) (stands [⟨0, i, 0⟩] j) := by
  rw [stands_cons, stands_cons, stands_nil, stands_cons, stands_nil]
  rintro _ (rfl | rfl | rfl)
  · exact .inl rfl
  · exact .inl rfl
  · exact .inr rfl

theorem mapsTo_split {n c : Nat} :
    Set.MapsTo splitSpot (stands [⟨0, i, 0⟩] j) (stands [⟨2, i, c⟩, ⟨n, i, 0⟩] j) := by
  rw [stands_cons, stands_nil, stands_cons, stands_cons, stands_nil]
  rintro _ (rfl | rfl)
  · exact .inl rfl
  · exact .inr (.inr rfl)

/-- Two sets of characters can be joined. A character in both of them is then read in one way
instead of two. -/
theorem simplification_join {s t u : CharClass}
    (hu : ∀ c, u.contains c = true ↔ s.contains c = true ∨ t.contains c = true) :
    Simplification text (.alt (.chars s) (.chars t)) (.chars u) joinSpot splitSpot := by
  have hany (i : Nat) : text[i]?.any u.contains = true ↔
      text[i]?.any s.contains = true ∨ text[i]?.any t.contains = true := by
    cases text[i]? with
    | none => simp
    | some c => exact hu c
  refine .of_rel (R := Joined text s t) (fun h _ => ?_) (fun h => ?_) (fun h => ?_) ?_
  · cases h with
    | first h =>
        have hw : Way text (.chars s) _ _ _ := .chars h
        exact ⟨.first hw, .chars ((hany _).mpr (.inl h)),
          (isDirect_first hw).mpr (List.nodup_singleton _), List.nodup_singleton _, mapsTo_join,
          mapsTo_split⟩
    | second h =>
        have hw : Way text (.chars t) _ _ _ := .chars h
        exact ⟨.second hw, .chars ((hany _).mpr (.inr h)),
          (isDirect_second (n := 1) hw).mpr (List.nodup_singleton _), List.nodup_singleton _,
          mapsTo_join, mapsTo_split⟩
  · cases h with
    | first h =>
        cases h with
        | chars h => exact ⟨_, .first h⟩
    | second h =>
        cases h with
        | chars h => exact ⟨_, .second h⟩
  -- a character in both sets is read by the first alternative
  · cases h with
    | chars h =>
        rcases (hany _).mp h with h | h
        · exact ⟨_, .first h⟩
        · exact ⟨_, .second h⟩
  -- the set leaves no choice, so no way through it is before another
  · intro i v w j v' w' k h h' hlt
    cases h <;> cases h' <;> simp_all

/-! ### Common starts

What is lifted must be a single part without a choice, so that the way through it is known
from its start alone (`IsStep`). A longer start is lifted by doing this again, one step at a
time. The choice on the right is made `d` characters later than on the left, and `lowerSpot`
takes that back. -/

/-- Whether a pattern is a single part that leaves no choice and goes on by `d` characters. -/
structure IsStep (text : Array Char) (p : Pattern) (d : Nat) : Prop where
  parts : p.parts = 1
  eq_of_way {i j : Nat} {w : List Visit} : Way text p i w j → w = [⟨0, i, 0⟩] ∧ j = i + d

theorem isStep_chars (s : CharClass) : IsStep text (.chars s) 1 := by
  refine ⟨rfl, fun h => ?_⟩
  cases h
  exact ⟨rfl, rfl⟩

theorem isStep_look (l : Look) : IsStep text (.look l) 0 := by
  refine ⟨rfl, fun h => ?_⟩
  cases h
  exact ⟨rfl, rfl⟩

/-- Ways through `pa|pb` and `p(a|b)` that take the same alternative, where `p` is a step. -/
inductive Lifted (text : Array Char) (p a b : Pattern) (d i : Nat) :
    List Visit → List Visit → Nat → Prop where
  | first {w : List Visit} {j : Nat} : Way text p i [⟨0, i, 0⟩] (i + d) →
      Way text a (i + d) w j → Lifted text p a b d i
        (⟨b.parts + 1 + (a.parts + 1), i, 0⟩ ::
          (⟨a.parts, i, 0⟩ :: w).map (.shift (b.parts + 1)))
        (⟨b.parts + a.parts + 1, i, 0⟩ ::
          ⟨b.parts + a.parts, i + d, 0⟩ :: w.map (.shift b.parts)) j
  | second {w : List Visit} {j : Nat} : Way text p i [⟨0, i, 0⟩] (i + d) →
      Way text b (i + d) w j → Lifted text p a b d i
        (⟨b.parts + 1 + (a.parts + 1), i, 1⟩ :: ⟨b.parts, i, 0⟩ :: w)
        (⟨b.parts + a.parts + 1, i, 0⟩ :: ⟨b.parts + a.parts, i + d, 1⟩ :: w) j

/-- Where the spots of `pa|pb` lie in `p(a|b)`. -/
def liftSpot (a b : Pattern) (s : Spot) : Spot :=
  if s.1 ≤ b.parts then s
  else if b.parts + 2 ≤ s.1 ∧ s.1 ≤ b.parts + a.parts + 1 then (s.1 - 1, s.2)
  else (b.parts + a.parts + 2, s.2)

/-- Where the spots of `p(a|b)` lie in `pa|pb`. -/
def lowerSpot (a b : Pattern) (d : Nat) (s : Spot) : Spot :=
  if s.1 ≤ b.parts then s
  else if s.1 ≤ b.parts + a.parts then (s.1 + 1, s.2)
  else if s.1 = b.parts + a.parts + 1 then (b.parts + a.parts + 3, s.2 - d)
  else (b.parts + a.parts + 3, s.2)

namespace Lifted

variable {a b : Pattern}

theorem left (hp : IsStep text p d) (h : Lifted text p a b d i v w j) :
    Way text (.alt (.seq p a) (.seq p b)) i v j := by
  cases h with
  | first h h' =>
      have hway := Way.first (q := .seq p b) (.seq h h')
      simpa [Pattern.parts, hp.parts, Visit.shift] using hway
  | second h h' =>
      have hway := Way.second (p := .seq p a) (.seq h h')
      simpa [Pattern.parts, hp.parts, Visit.shift] using hway

theorem right (h : Lifted text p a b d i v w j) : Way text (.seq p (.alt a b)) i w j := by
  cases h with
  | first h h' => exact .seq h (.first h')
  | second h h' => exact .seq h (.second h')

theorem isDirect_iff (hp : IsStep text p d) (h : Lifted text p a b d i v w j) :
    IsDirect v ↔ IsDirect w := by
  cases h with
  | @first w _ h h' =>
      -- the choice and the step trade places: each is one visit more in front of `w`
      have hab : Way text (.alt a b) (i + d) _ j := .first h'
      have hpa : Way text (.seq p a) i (⟨a.parts, i, 0⟩ :: w) j := .seq h h'
      have hparts : (Pattern.seq p a).parts = a.parts + 1 := by rw [Pattern.parts, hp.parts]
      rw [← hparts, isDirect_first hpa]
      exact (isDirect_second (n := 0) h').trans
        ((isDirect_first h').symm.trans (isDirect_second (n := 0) hab).symm)
  | @second w _ h h' =>
      have hab : Way text (.alt a b) (i + d) _ j := .second h'
      have hpb : Way text (.seq p b) i (⟨b.parts, i, 0⟩ :: w) j := .seq h h'
      have hparts : (Pattern.seq p b).parts = b.parts + 1 := by rw [Pattern.parts, hp.parts]
      rw [← hparts, isDirect_second hpb]
      exact (isDirect_second (n := 0) h').trans
        ((isDirect_second h').symm.trans (isDirect_second (n := 0) hab).symm)

theorem mapsTo (h : Lifted text p a b d i v w j) :
    Set.MapsTo (liftSpot a b) (stands v j) (stands w j) := by
  cases h with
  | first _ h =>
      rw [stands_first, stands_cons, stands_cons, stands_first]
      rintro _ (rfl | ⟨s, rfl | hs, rfl⟩)
      · left
        grind [liftSpot]
      -- the step of the alternative that is taken lies at the step of the right side
      · left
        grind [liftSpot, raiseParts, raise]
      -- on the left the step of `pb` lies between the parts of `b` and those of `a`
      · have hle := (h.within_stands hs).1
        refine .inr (.inr ⟨s, hs, ?_⟩)
        grind [liftSpot, raiseParts, raise]
  | second _ h =>
      rw [stands_cons, stands_cons, stands_cons, stands_cons]
      rintro s (rfl | rfl | hs)
      · left
        grind [liftSpot]
      · left
        grind [liftSpot]
      · have hle := (h.within_stands hs).1
        rw [liftSpot, if_pos hle]
        exact .inr (.inr hs)

theorem mapsTo_back (h : Lifted text p a b d i v w j) :
    Set.MapsTo (lowerSpot a b d) (stands w j) (stands v j) := by
  cases h with
  | first _ h =>
      rw [stands_cons, stands_first, stands_first, stands_cons]
      rintro _ (rfl | rfl | ⟨s, hs, rfl⟩)
      · left
        grind [lowerSpot]
      · left
        -- the choice of the right lies `d` further on than that of the left
        grind [lowerSpot]
      · have hle := (h.within_stands hs).1
        refine .inr ⟨s, .inr hs, ?_⟩
        grind [lowerSpot, raiseParts, raise]
  | second _ h =>
      rw [stands_cons, stands_cons, stands_cons, stands_cons]
      rintro s (rfl | rfl | hs)
      · left
        grind [lowerSpot]
      · left
        grind [lowerSpot]
      · have hle := (h.within_stands hs).1
        rw [lowerSpot, if_pos hle]
        exact .inr (.inr hs)

end Lifted

/-- A step that both alternatives start with can stand before them. -/
theorem simplification_lift (hp : IsStep text p d) (a b : Pattern) :
    Simplification text (.alt (.seq p a) (.seq p b)) (.seq p (.alt a b)) (liftSpot a b)
      (lowerSpot a b d) := by
  refine .of_rel (R := Lifted text p a b d) (fun h hdirect => ?_) (fun h => ?_) (fun h => ?_) ?_
  · have hv := hdirect.elim id (h.isDirect_iff hp).mpr
    exact ⟨h.left hp, h.right, hv, (h.isDirect_iff hp).mp hv, h.mapsTo, h.mapsTo_back⟩
  · cases h with
    | first h =>
        cases h with
        | seq h h' =>
            -- what `p` reads is fixed, so the ways through both sides
            -- are written with the same visits
            obtain ⟨rfl, rfl⟩ := hp.eq_of_way h
            have hway := Lifted.first (b := b) h h'
            exact ⟨_, by simpa [Pattern.parts, hp.parts, Visit.shift] using hway⟩
    | second h =>
        cases h with
        | seq h h' =>
            obtain ⟨rfl, rfl⟩ := hp.eq_of_way h
            have hway := Lifted.second (a := a) h h'
            exact ⟨_, by simpa [Pattern.parts, hp.parts, Visit.shift] using hway⟩
  · cases h with
    | seq h h' =>
        obtain ⟨rfl, rfl⟩ := hp.eq_of_way h
        cases h' with
        | first h' => exact ⟨_, .first h h'⟩
        | second h' => exact ⟨_, .second h h'⟩
  -- the same alternative compares behind the step, different ones at the choice
  · intro i v w j v' w' k h h' hlt
    cases h <;> cases h' <;> simp_all

/-! ### The empty text -/

/-- Patterns that match only the empty text can be replaced by each other if they match at the same
places: all ways from a place to itself start with the same part, which can stand for all spots. -/
theorem simplification_of_empty (hp : ∀ i j, p.Matches text i j → i = j)
    (h : ∀ i j, p.Matches text i j ↔ q.Matches text i j) :
    Simplification text p q (fun s => (q.parts, s.2)) (fun s => (p.parts, s.2)) := by
  have hmirrors {i j v w} (hi : i ≤ text.size) (hv : Way text p i v j) (hw : Way text q i w j)
      (hdv : IsDirect v) (hdw : IsDirect w) :
      Mirrors text p q (fun s => (q.parts, s.2)) (fun s => (p.parts, s.2)) i v w j := by
    -- the text stays where it is, so every spot of the way has the place of its first one
    obtain rfl := hp i j ⟨hi, _, hv⟩
    refine ⟨hv, hw, hdv, hdw, fun s hs => ?_, fun s hs => ?_⟩
    · obtain ⟨-, hle, hge⟩ := hv.within_stands hs
      obtain rfl := Nat.le_antisymm hle hge
      exact hw.entry_mem
    · obtain ⟨-, hle, hge⟩ := hw.within_stands hs
      obtain rfl := Nat.le_antisymm hle hge
      exact hv.entry_mem
  refine ⟨fun hi hw hdw => ?_, fun {i j v} hi hv hdv => ?_⟩
  · obtain ⟨-, v, hv⟩ := (h _ _).mpr ⟨hi, _, hw⟩
    obtain ⟨v, hv, hdv⟩ := hv.exists_direct
    -- the first match of `q` has nothing before it, and both match the same nothing
    exact ⟨v, hmirrors hi hv hw hdv hdw⟩
  · have hq := (h i j).mp ⟨hi, _, hv⟩
    obtain ⟨k, hfirst⟩ := hq.exists_firstMatch
    obtain rfl := hp i j ((h i j).mpr hq)
    obtain rfl := hp i k ((h i k).mpr hfirst.matches)
    obtain ⟨-, w, hw, hdw, hleast⟩ := Pattern.firstMatch_iff.mp hfirst
    exact ⟨w, hmirrors hi hv hw hdv hdw, fun w' k hw' hdw' hlt =>
      absurd hlt (hleast w' k hw' hdw')⟩

end MailMerge.Regex
