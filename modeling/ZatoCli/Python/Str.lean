import Mathlib.Data.List.Basic

namespace ZatoCli

abbrev Str := List Char

def whitespace : Str := [' ', '\t', '\n', '\r', '\x0b', '\x0c']

/-- `s.lstrip(chars)`: `chars` is a set of characters, not a prefix. -/
def lstrip (chars s : Str) : Str := s.dropWhile (· ∈ chars)

def rstrip (chars s : Str) : Str := (lstrip chars s.reverse).reverse

def strip (chars s : Str) : Str := rstrip chars (lstrip chars s)

def startswith (s p : Str) : Bool := p.isPrefixOf s

/-- `s.split(sep, 1)` for a one-character separator. -/
def splitOnce (sep : Char) (s : Str) : List Str :=
  match s.dropWhile (· ≠ sep) with
  | [] => [s]
  | _ :: rest => [s.takeWhile (· ≠ sep), rest]

/-- The scan of `s.split(sep)` for a non-empty `sep`, with `skip` characters of a separator
still to pass: occurrences are found from the left and do not overlap. -/
def splitFrom (sep : Str) : Nat → Str → List Str
  | _, [] => [[]]
  | skip+1, _ :: cs => splitFrom sep skip cs
  | 0, c :: cs =>
    if sep.isPrefixOf (c :: cs) then [] :: splitFrom sep (sep.length-1) cs
    else match splitFrom sep 0 cs with
      | [] => [[c]]
      | p :: ps => (c :: p) :: ps

/-- The lines `for line in f` yields on a file holding `s`: each keeps its `\n`, only the last
may lack one. -/
def lines : Str → List Str
  | [] => []
  | c :: cs =>
    if c = '\n' then ['\n'] :: lines cs
    else match lines cs with
      | [] => [[c]]
      | l :: ls => (c :: l) :: ls

/-- The left-to-right scan of `str.replace`; `skip` counts the characters of the last match
still to be dropped. -/
def replaceFrom (old new : Str) : Nat → Str → Str
  | _, [] => []
  | skip+1, _ :: cs => replaceFrom old new skip cs
  | 0, c :: cs =>
    if old.isPrefixOf (c :: cs) then new ++ replaceFrom old new (old.length-1) cs
    else c :: replaceFrom old new 0 cs

def replace (old new s : Str) : Str :=
  if old = [] then new ++ s.flatMap (· :: new) else replaceFrom old new 0 s

section Strip

variable {chars : Str}

theorem lstrip_append_of_forall_mem {l : Str} (h : ∀ c ∈ l, c ∈ chars) (r : Str) :
    lstrip chars (l ++ r) = lstrip chars r :=
  List.dropWhile_append_of_pos (by simpa using h)

theorem lstrip_cons_of_not_mem {c : Char} (h : c ∉ chars) (s : Str) :
    lstrip chars (c :: s) = c :: s := by
  simp [lstrip, h]

theorem lstrip_eq_nil_iff {s : Str} : lstrip chars s = [] ↔ ∀ c ∈ s, c ∈ chars := by
  simp [lstrip, List.dropWhile_eq_nil_iff]

theorem lstrip_append_of_ne_nil {l : Str} (h : lstrip chars l ≠ []) (r : Str) :
    lstrip chars (l ++ r) = lstrip chars l ++ r := by
  rw [lstrip, List.dropWhile_append, if_neg (by simpa [lstrip] using h)]
  rfl

theorem rstrip_append_of_forall_mem (l : Str) {r : Str} (h : ∀ c ∈ r, c ∈ chars) :
    rstrip chars (l ++ r) = rstrip chars l := by
  simp only [rstrip, List.reverse_append]
  rw [lstrip_append_of_forall_mem (by simpa using h)]

theorem rstrip_eq_self_of_getLast {s : Str} (h : ∀ c ∈ s.getLast?, c ∉ chars) :
    rstrip chars s = s := by
  rcases List.eq_nil_or_concat' s with rfl | ⟨l, c, rfl⟩
  · rfl
  · rw [rstrip, List.reverse_append, List.reverse_singleton, List.singleton_append,
      lstrip_cons_of_not_mem (by simpa using h)]
    simp

theorem rstrip_eq_nil_iff {s : Str} : rstrip chars s = [] ↔ ∀ c ∈ s, c ∈ chars := by
  simp [rstrip, lstrip_eq_nil_iff]

theorem strip_eq_nil_iff {s : Str} : strip chars s = [] ↔ ∀ c ∈ s, c ∈ chars := by
  rw [strip, rstrip_eq_nil_iff]
  constructor
  · intro h
    by_cases hs : lstrip chars s = []
    · exact lstrip_eq_nil_iff.mp hs
    · have hsplit := List.takeWhile_append_dropWhile (· ∈ chars) s
      intro c hc
      rw [← hsplit, List.mem_append] at hc
      rcases hc with hc | hc
      · simpa using List.mem_takeWhile_imp hc
      · exact h c hc
  · intro h c hc
    exact h c ((List.dropWhile_suffix _).subset hc)

theorem strip_append_of_mem (s : Str) {c : Char} (h : c ∈ chars) :
    strip chars (s ++ [c]) = strip chars s := by
  by_cases hs : lstrip chars s = []
  · have hl : lstrip chars (s ++ [c]) = [] := by
      rw [lstrip_eq_nil_iff] at hs ⊢
      simpa [or_imp, forall_and] using ⟨hs, h⟩
    simp only [strip, hl, hs]
  · rw [strip, strip, lstrip_append_of_ne_nil hs, rstrip_append_of_forall_mem _ (by simpa)]

theorem strip_append_append {l w r : Str} (hl : ∀ c ∈ l, c ∈ chars)
    (hr : ∀ c ∈ r, c ∈ chars) (hw : lstrip chars w ≠ []) :
    strip chars (l ++ w ++ r) = strip chars w := by
  rw [strip, List.append_assoc, lstrip_append_of_forall_mem hl, lstrip_append_of_ne_nil hw,
    rstrip_append_of_forall_mem _ hr, strip]

theorem strip_sublist (s : Str) : (strip chars s).Sublist s := by
  have hr := (List.dropWhile_sublist (· ∈ chars) (l := (lstrip chars s).reverse)).reverse
  rw [List.reverse_reverse] at hr
  exact hr.trans (List.dropWhile_sublist _)

theorem strip_eq_self {s : Str} (h : ∀ c ∈ s, c ∉ chars) : strip chars s = s := by
  cases s with
  | nil => rfl
  | cons a s =>
    rw [strip, lstrip_cons_of_not_mem (h a (by simp))]
    exact rstrip_eq_self_of_getLast fun c hc => h c (List.mem_of_mem_getLast? hc)

end Strip

theorem splitOnce_append {sep : Char} {l : Str} (h : sep ∉ l) (r : Str) :
    splitOnce sep (l ++ sep :: r) = [l, r] := by
  have hl : ∀ c ∈ l, decide (c ≠ sep) = true := fun c hc => by
    simpa using fun (e : c = sep) => h (e ▸ hc)
  rw [splitOnce, List.dropWhile_append_of_pos hl, List.takeWhile_append_of_pos hl]
  simp

theorem lines_append {l : Str} (h : '\n' ∉ l) (r : Str) :
    lines (l ++ '\n' :: r) = (l ++ ['\n']) :: lines r := by
  induction l with
  | nil => simp [lines]
  | cons c l ih =>
    have hc : c ≠ '\n' := fun e => h (e ▸ List.mem_cons_self c l)
    rw [List.cons_append, lines, if_neg hc, ih fun hl => h (List.mem_cons_of_mem c hl)]
    rfl

section Split

variable {sep : Str}

theorem splitFrom_skip (l r : Str) : splitFrom sep l.length (l ++ r) = splitFrom sep 0 r := by
  induction l with
  | nil => rfl
  | cons c l ih => cases r <;> exact ih

theorem splitFrom_sep_append (hsep : sep ≠ []) (r : Str) :
    splitFrom sep 0 (sep ++ r) = [] :: splitFrom sep 0 r := by
  obtain ⟨s, ss, rfl⟩ := List.exists_cons_of_ne_nil hsep
  have hp : (s :: ss).isPrefixOf (s :: (ss ++ r)) :=
    List.isPrefixOf_iff_prefix.mpr (List.prefix_append (s :: ss) r)
  rw [List.cons_append, splitFrom, if_pos hp]
  simpa using splitFrom_skip ss r

theorem splitFrom_append_sep (hsep : sep ≠ []) {a : Str} (h : ¬ sep <:+: a ++ sep.dropLast)
    (r : Str) : splitFrom sep 0 (a ++ sep ++ r) = a :: splitFrom sep 0 r := by
  induction a with
  | nil => exact splitFrom_sep_append hsep r
  | cons c a ih =>
    have hpre : ¬ sep <+: c :: (a ++ sep ++ r) := fun hp => by
      have hd : c :: (a ++ sep.dropLast) <+: c :: (a ++ sep ++ r) := by
        rw [List.append_assoc]
        exact (List.prefix_cons_inj c).mpr ((List.prefix_append_right_inj a).mpr
          ((List.dropLast_prefix sep).trans (List.prefix_append sep r)))
      have hlen : sep.length ≤ (c :: (a ++ sep.dropLast)).length := by
        simp only [List.length_cons, List.length_append, List.length_dropLast]
        omega
      exact h (List.prefix_of_prefix_length_le hp hd hlen).isInfix
    rw [List.cons_append, List.cons_append, splitFrom,
      if_neg (mt List.isPrefixOf_iff_prefix.mp hpre),
      ih fun hi => h (hi.trans (List.infix_cons (List.infix_refl _)))]

theorem splitFrom_ne_nil : ∀ (skip : Nat) (s : Str), splitFrom sep skip s ≠ []
  | skip, [] => by cases skip <;> simp [splitFrom]
  | skip+1, _ :: cs => splitFrom_ne_nil skip cs
  | 0, c :: cs => by
    rw [splitFrom]
    split_ifs
    · exact List.cons_ne_nil _ _
    · split <;> exact List.cons_ne_nil _ _

theorem exists_first_infix (hsep : sep ≠ []) {s : Str} (h : sep <:+: s) :
    ∃ a b, s = a ++ sep ++ b ∧ ¬ sep <:+: a ++ sep.dropLast := by
  induction s with
  | nil => exact absurd (List.eq_nil_of_infix_nil h) hsep
  | cons c t ih =>
    by_cases hp : sep <+: c :: t
    · obtain ⟨b, hb⟩ := hp
      refine ⟨[], b, by simp [hb], fun hi => ?_⟩
      have := hi.length_le
      simp only [List.nil_append, List.length_dropLast] at this
      exact absurd this (by have := List.length_pos.mpr hsep; omega)
    · obtain ⟨a, b, rfl, ha⟩ := ih ((List.infix_cons_iff.mp h).resolve_left hp)
      refine ⟨c :: a, b, rfl, fun hi => ?_⟩
      rcases List.infix_cons_iff.mp hi with hi | hi
      · refine hp (hi.trans ?_)
        rw [List.append_assoc]
        exact (List.prefix_cons_inj c).mpr ((List.prefix_append_right_inj a).mpr
          ((List.dropLast_prefix sep).trans (List.prefix_append sep b)))
      · exact ha hi

theorem splitFrom_of_not_infix {s : Str} (h : ¬ sep <:+: s) : splitFrom sep 0 s = [s] := by
  induction s with
  | nil => rfl
  | cons c s ih =>
    rw [splitFrom, if_neg (mt List.isPrefixOf_iff_prefix.mp fun hp => h hp.isInfix),
      ih fun hi => h (hi.trans (List.infix_cons (List.infix_refl _)))]

end Split

/-- `os.path.join(a, b)` on POSIX. -/
def pathJoin (a b : Str) : Str :=
  if b.head? = some '/' then b
  else if a = [] ∨ a.getLast? = some '/' then a ++ b
  else a ++ '/' :: b

/-- `os.path.join(a, *parts)`. -/
def pathJoinAll (a : Str) (parts : List Str) : Str := parts.foldl pathJoin a

theorem pathJoin_append {a b : Str} (hb : b ≠ []) (hs : b.head? ≠ some '/') (r : Str) :
    pathJoin a (b ++ r) = pathJoin a b ++ r := by
  have hh : (b ++ r).head? = b.head? := by
    cases b with
    | nil => contradiction
    | cons c b => rfl
  unfold pathJoin
  rw [hh, if_neg hs, if_neg hs]
  split_ifs <;> simp

theorem mem_pathJoin {a b : Str} {c : Char} (h : c ∈ pathJoin a b) :
    c ∈ a ∨ c ∈ b ∨ c = '/' := by
  unfold pathJoin at h
  split_ifs at h
  · exact .inr (.inl h)
  · simp only [List.mem_append] at h; tauto
  · simp only [List.mem_append, List.mem_cons] at h; tauto

theorem pathJoin_inj {a b c : Str} (hb : b.head? ≠ some '/') (hc : c.head? ≠ some '/') :
    pathJoin a b = pathJoin a c ↔ b = c := by
  refine ⟨fun h => ?_, congrArg _⟩
  unfold pathJoin at h
  rw [if_neg hb, if_neg hc] at h
  split_ifs at h
  · exact List.append_cancel_left h
  · exact List.tail_eq_of_cons_eq (List.append_cancel_left h)

theorem pathJoin_ne_of_slash {a b r : Str} (hb : '/' ∉ b) (hr : '/' ∈ r) :
    pathJoin a b ≠ a ++ '/' :: r := by
  unfold pathJoin
  split_ifs with h1
  · exact fun _ => hb (List.mem_of_mem_head? h1)
  · exact fun h => hb (List.append_cancel_left h ▸ List.mem_cons_self _ _)
  · exact fun h => hb ((List.cons.inj (List.append_cancel_left h)).2 ▸ hr)

theorem eq_of_append_slash {k₁ k₂ r₁ r₂ : Str} (h₁ : '/' ∉ k₁) (h₂ : '/' ∉ k₂)
    (h : k₁ ++ '/' :: r₁ = k₂ ++ '/' :: r₂) : k₁ = k₂ := by
  induction k₁ generalizing k₂ with
  | nil =>
    cases k₂ with
    | nil => rfl
    | cons c k₂ => exact absurd ((List.cons.inj h).1 ▸ List.mem_cons_self _ _) h₂
  | cons c k₁ ih =>
    cases k₂ with
    | nil => exact absurd ((List.cons.inj h).1 ▸ List.mem_cons_self _ _) h₁
    | cons c' k₂ =>
      obtain ⟨rfl, htail⟩ := List.cons.inj (by simpa only [List.cons_append] using h)
      rw [ih (fun hm => h₁ (List.mem_cons_of_mem _ hm))
        (fun hm => h₂ (List.mem_cons_of_mem _ hm)) htail]

theorem not_mem_pathJoin {a b : Str} {c : Char} (ha : c ∉ a) (hb : c ∉ b) (hc : c ≠ '/') :
    c ∉ pathJoin a b := fun h => (mem_pathJoin h).elim ha fun h => h.elim hb hc

theorem mem_pathJoin_left {a b : Str} {c : Char} (hs : b.head? ≠ some '/') (h : c ∈ a) :
    c ∈ pathJoin a b := by
  rw [pathJoin, if_neg hs]
  split_ifs <;> simp [h]

theorem mem_pathJoin_right {a b : Str} {c : Char} (h : c ∈ b) : c ∈ pathJoin a b := by
  unfold pathJoin
  split_ifs <;> simp [h]

end ZatoCli
