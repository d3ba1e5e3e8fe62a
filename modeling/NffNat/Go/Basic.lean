import Mathlib.Data.List.Basic

/-!
# The pieces of Go the configuration code stands on

`nat/config.go` is Go, and a few of its behaviours are Go's rather than its own: what a
fixed-size array is, what happens when a slice is indexed past its end, how `encoding/json`
hands a string to an `UnmarshalJSON` method, and how `strconv.ParseInt` reads a number.  This
file models exactly those, at the level the configuration code observes them.

* `GoBytes n` is a Go array `[n]uint8`.  It carries the proof that it has `n` bytes, so a
  16-byte address cannot be built with 15; `GoBytes.copy` is Go's `copy(dst[:], src)`.
* `GoPanic` is a run-time panic.  The only one the modelled code can raise is an index out of
  range, and `sliceSet` is the assignment `s[i] = v` that raises it.  `GoFailure` is either
  way a call can fail: it returns an `error`, or it panics.
* `forRange` is a `for i := range xs` loop that updates the elements in place and returns the
  first error; `forRange_ok_iff` and `forRange_eq_map` are the two facts every use of it needs.
* `JsonValue` and `unmarshalString` are the first line of every `UnmarshalJSON` method,
  `json.Unmarshal(b, &s)` into a fresh `string`.
* `ParseInt` is `strconv.ParseInt(s, 10, bitSize)`.

Go strings are byte strings, read here as lists of characters.  Every grammar below is ASCII,
and a non-ASCII character is rejected wherever one of its bytes would be, so the two readings
accept the same strings.
-/

set_option autoImplicit false

namespace NffNat

/-- Results of the modelled functions are compared, so that tests on them can be decided. -/
instance decEqExcept {ε α : Type} [DecidableEq ε] [DecidableEq α] : DecidableEq (Except ε α)
  | .error a, .error b =>
    if h : a = b then isTrue (h ▸ rfl) else isFalse fun e ↦ h (Except.error.inj e)
  | .ok a, .ok b => if h : a = b then isTrue (h ▸ rfl) else isFalse fun e ↦ h (Except.ok.inj e)
  | .error _, .ok _ => isFalse nofun
  | .ok _, .error _ => isFalse nofun

/-! ## Fixed-size byte arrays -/

/-- A Go array of `n` bytes, `[n]uint8`.  Its length is part of the value. -/
structure GoBytes (n : Nat) where
  /-- The bytes, first to last. -/
  toList : List UInt8
  /-- There are exactly `n` of them. -/
  length_toList : toList.length = n
deriving DecidableEq, Repr

namespace GoBytes

variable {n : Nat}

/-- The zero value of `[n]uint8`. -/
def zero (n : Nat) : GoBytes n := ⟨List.replicate n 0, List.length_replicate n 0⟩

/-- Go's `copy(dst[:], src)`: the first `min n src.length` bytes of `dst` are replaced by those
of `src`, the rest keep their value. -/
def copy (dst : GoBytes n) (src : List UInt8) : GoBytes n :=
  ⟨src.take n ++ dst.toList.drop src.length, by
    simp only [List.length_append, List.length_take, List.length_drop, dst.length_toList]
    omega⟩

theorem ext_toList {a b : GoBytes n} (h : a.toList = b.toList) : a = b := by
  cases a; cases b; cases h; rfl

/-- Copying a source of exactly `n` bytes overwrites the whole array. -/
@[simp] theorem copy_toList_of_length {dst : GoBytes n} {src : List UInt8}
    (h : src.length = n) : (dst.copy src).toList = src := by
  simp [copy, ← h, dst.length_toList]

end GoBytes

/-! ## Slices and run-time panics -/

/-- A Go run-time panic, `index out of range [index] with length length`. -/
structure GoPanic where
  /-- The index that was used. -/
  index : Nat
  /-- The length of the slice it was used on. -/
  length : Nat
deriving DecidableEq, Repr

/-- The slice assignment `s[i] = v`, which panics unless `i < len(s)`. -/
def sliceSet {α : Type} (s : List α) (i : Nat) (v : α) : Except GoPanic (List α) :=
  if i < s.length then .ok (s.set i v) else .error ⟨i, s.length⟩

/-- The slice index `s[i]`, which panics unless `i < len(s)`. -/
def sliceGet {α : Type} (s : List α) (i : Nat) : Except GoPanic α :=
  match s[i]? with
  | some v => .ok v
  | none => .error ⟨i, s.length⟩

/-- How a Go call can fail: it returns a non-nil `error`, or it panics. -/
inductive GoFailure
  | error (msg : String)
  | panic (p : GoPanic)
deriving DecidableEq, Repr

/-- A computation that can only panic, as one that can also return an error. -/
def GoPanic.lift {α : Type} : Except GoPanic α → Except GoFailure α
  | .ok a => .ok a
  | .error p => .error (.panic p)

@[simp] theorem GoPanic.lift_eq_ok_iff {α : Type} {x : Except GoPanic α} {a : α} :
    GoPanic.lift x = .ok a ↔ x = .ok a := by
  cases x <;> simp [GoPanic.lift]

theorem sliceSet_of_lt {α : Type} {s : List α} {i : Nat} (v : α) (h : i < s.length) :
    sliceSet s i v = .ok (s.set i v) := if_pos h

theorem sliceSet_eq_ok {α : Type} {s s' : List α} {i : Nat} {v : α}
    (h : sliceSet s i v = .ok s') : i < s.length ∧ s' = s.set i v := by
  unfold sliceSet at h
  split at h
  · exact ⟨‹_›, (Except.ok.inj h).symm⟩
  · cases h

theorem exists_sliceSet_eq_ok_iff {α : Type} {s : List α} {i : Nat} {v : α} :
    (∃ s', sliceSet s i v = .ok s') ↔ i < s.length := by
  unfold sliceSet; split <;> simp_all

theorem sliceGet_of_lt {α : Type} {s : List α} {i : Nat} (h : i < s.length) :
    sliceGet s i = .ok s[i] := by
  simp [sliceGet, List.getElem?_eq_getElem h]

theorem sliceGet_eq_ok_iff {α : Type} {s : List α} {i : Nat} {v : α} :
    sliceGet s i = .ok v ↔ s[i]? = some v := by
  cases h : s[i]? <;> simp [sliceGet, h]

/-- A slice element written and read back. -/
theorem sliceGet_set {α : Type} (s : List α) (i : Nat) (v : α) (j : Nat) :
    sliceGet (s.set i v) j = if i = j ∧ i < s.length then .ok v else sliceGet s j := by
  unfold sliceGet
  rw [List.getElem?_set]
  by_cases h : i = j
  · subst h
    by_cases hi : i < s.length
    · simp [hi]
    · simp [hi, List.getElem?_eq_none (Nat.le_of_not_lt hi)]
  · simp [h]

theorem ok_bind {ε α β : Type} (a : α) (f : α → Except ε β) :
    (Except.ok a : Except ε α) >>= f = f a := rfl

/-- `x >>= f` is Go's `a, err := x; if err != nil { return err }; f(a)`. -/
theorem bind_eq_ok_iff {ε α β : Type} {x : Except ε α} {f : α → Except ε β} {b : β} :
    x >>= f = .ok b ↔ ∃ a, x = .ok a ∧ f a = .ok b := by
  cases x <;> simp [bind, Except.bind]

@[simp] theorem ok_map {ε α β : Type} (f : α → β) (a : α) :
    (Except.ok a : Except ε α).map f = .ok (f a) := rfl

/-- A result passed through `f` comes from a result of the computation. -/
theorem map_eq_ok_iff {ε α β : Type} {x : Except ε α} {f : α → β} {b : β} :
    x.map f = .ok b ↔ ∃ a, x = .ok a ∧ f a = b := by
  cases x <;> simp [Except.map]

/-- A step that cannot fail, after one that can, succeeds exactly when the first one does. -/
theorem exists_bind_eq_ok_iff {ε α β : Type} {x : Except ε α} {f : α → Except ε β}
    (hf : ∀ a, ∃ b, f a = .ok b) : (∃ b, x >>= f = .ok b) ↔ ∃ a, x = .ok a := by
  simp only [bind_eq_ok_iff]
  constructor
  · rintro ⟨b, a, hx, -⟩
    exact ⟨a, hx⟩
  · rintro ⟨a, hx⟩
    obtain ⟨b, hb⟩ := hf a
    exact ⟨b, a, hx, hb⟩

theorem exists_bind_eq_ok_iff_and {ε α β : Type} {x : Except ε α} {f : α → Except ε β} :
    (∃ b, x >>= f = .ok b) ↔ ∃ a, x = .ok a ∧ ∃ b, f a = .ok b := by
  simp only [bind_eq_ok_iff]
  exact ⟨fun ⟨b, a, hx, hb⟩ ↦ ⟨a, hx, b, hb⟩, fun ⟨a, hx, b, hb⟩ ↦ ⟨b, a, hx, hb⟩⟩

/-! ## Loops over a slice -/

section mapM

variable {ε α β : Type} {f : α → Except ε β}

/-- A loop over a slice whose body cannot fail on any element succeeds. -/
theorem exists_mapM_eq_ok_iff {l : List α} :
    (∃ l', l.mapM f = .ok l') ↔ ∀ a ∈ l, ∃ b, f a = .ok b := by
  induction l with
  | nil => exact iff_of_true ⟨[], rfl⟩ (by simp)
  | cons a l ih =>
    have hpure : ∀ b : β, (∃ r, (l.mapM f >>= fun bs ↦ pure (b :: bs)) = .ok r) ↔
        ∃ bs, l.mapM f = .ok bs := fun _ ↦ exists_bind_eq_ok_iff fun _ ↦ ⟨_, rfl⟩
    rw [List.mapM_cons, exists_bind_eq_ok_iff_and]
    simp only [hpure, ih, List.mem_cons, forall_eq_or_imp]
    exact ⟨fun ⟨b, hb, h⟩ ↦ ⟨⟨b, hb⟩, h⟩, fun ⟨⟨b, hb⟩, h⟩ ↦ ⟨b, hb, h⟩⟩

/-- What a loop over a slice returns, element by element. -/
theorem forall₂_of_mapM_eq_ok {l : List α} {l' : List β} (h : l.mapM f = .ok l') :
    List.Forall₂ (fun a b ↦ f a = .ok b) l l' := by
  induction l generalizing l' with
  | nil => cases h; exact .nil
  | cons a l ih =>
    rw [List.mapM_cons] at h
    obtain ⟨b, hb, h⟩ := bind_eq_ok_iff.1 h
    obtain ⟨bs, hbs, h⟩ := bind_eq_ok_iff.1 h
    cases h
    exact .cons hb (ih hbs)

end mapM


/-- `for i := range xs { x := &xs[i]; if err := body(x); err != nil { return err } }`.  The body
may update the element in place and a state `σ` (the package variables it sets); the first
error ends the loop. -/
def forRange {ε α σ : Type} (body : α → σ → Except ε (α × σ)) : List α → σ → Except ε (List α × σ)
  | [], s => .ok ([], s)
  | x :: xs, s =>
    match body x s with
    | .error e => .error e
    | .ok (x', s') =>
      match forRange body xs s' with
      | .error e => .error e
      | .ok (xs', s'') => .ok (x' :: xs', s'')

section forRange

variable {ε α σ : Type} {body : α → σ → Except ε (α × σ)}

/-- What one pass of a loop that succeeded did: the body on the first element, then the rest of
the loop from the state it left. -/
theorem forRange_cons_eq_ok {x : α} {xs ys : List α} {s s'' : σ} :
    forRange body (x :: xs) s = .ok (ys, s'') ↔
      ∃ x' s' ys', body x s = .ok (x', s') ∧ forRange body xs s' = .ok (ys', s'') ∧
        ys = x' :: ys' := by
  rw [forRange]
  rcases hx : body x s with e | ⟨x', s'⟩
  · simp
  · dsimp only
    rcases hxs : forRange body xs s' with e | ⟨ys', s₂⟩
    · simp [hxs]
    · simp only [Except.ok.injEq, Prod.mk.injEq]
      constructor
      · rintro ⟨rfl, rfl⟩
        exact ⟨x', s', ys', ⟨rfl, rfl⟩, hxs, rfl⟩
      · rintro ⟨_, _, _, ⟨rfl, rfl⟩, h, rfl⟩
        rw [hxs] at h
        cases h
        exact ⟨rfl, rfl⟩

/-- A loop whose body succeeds on an element exactly when `P` holds of it, whatever the state,
succeeds exactly when `P` holds of every element. -/
theorem forRange_ok_iff {P : α → Prop} {xs : List α}
    (hbody : ∀ x ∈ xs, ∀ s, (∃ r, body x s = .ok r) ↔ P x) (s : σ) :
    (∃ r, forRange body xs s = .ok r) ↔ ∀ x ∈ xs, P x := by
  induction xs generalizing s with
  | nil => simp [forRange]
  | cons x xs ih =>
    have ih := ih fun y hy ↦ hbody y (List.mem_cons_of_mem x hy)
    rw [List.forall_mem_cons, ← hbody x (List.mem_cons_self x xs) s]
    constructor
    · rintro ⟨⟨ys, s''⟩, h⟩
      obtain ⟨x', s', ys', hx, hxs, rfl⟩ := forRange_cons_eq_ok.1 h
      exact ⟨⟨_, hx⟩, (ih s').1 ⟨_, hxs⟩⟩
    · rintro ⟨⟨⟨x', s'⟩, hx⟩, hxs⟩
      obtain ⟨⟨xs', s''⟩, hl⟩ := (ih s').2 hxs
      exact ⟨(x' :: xs', s''), forRange_cons_eq_ok.2 ⟨x', s', xs', hx, hl, rfl⟩⟩

/-- A loop whose body turns each element `x` into `f x` turns the slice into `xs.map f`. -/
theorem forRange_eq_map {f : α → α} (hbody : ∀ x s x' s', body x s = .ok (x', s') → x' = f x)
    {xs ys : List α} {s s' : σ} (h : forRange body xs s = .ok (ys, s')) : ys = xs.map f := by
  induction xs generalizing ys s with
  | nil => cases h; rfl
  | cons x xs ih =>
    obtain ⟨x', s₁, ys', hx, hxs, rfl⟩ := forRange_cons_eq_ok.1 h
    rw [List.map_cons, hbody _ _ _ _ hx, ih hxs]

/-- A loop whose body moves the state from `s` to `f x s` leaves the state the fold of `f`
over the slice. -/
theorem forRange_state {f : α → σ → σ} (hbody : ∀ x s x' s', body x s = .ok (x', s') → s' = f x s)
    {xs ys : List α} {s s' : σ} (h : forRange body xs s = .ok (ys, s')) :
    s' = xs.foldl (fun s x ↦ f x s) s := by
  induction xs generalizing ys s with
  | nil => cases h; rfl
  | cons x xs ih =>
    obtain ⟨x', s₁, ys', hx, hxs, rfl⟩ := forRange_cons_eq_ok.1 h
    rw [List.foldl_cons, ← hbody _ _ _ _ hx, ih hxs]

/-- A loop that succeeded ran its body successfully on every element. -/
theorem forRange_ok_mem {xs ys : List α} {s s' : σ} (h : forRange body xs s = .ok (ys, s')) :
    ∀ x ∈ xs, ∃ s r, body x s = .ok r := by
  induction xs generalizing ys s with
  | nil => simp
  | cons x xs ih =>
    obtain ⟨x', s₁, ys', hx, hxs, rfl⟩ := forRange_cons_eq_ok.1 h
    exact List.forall_mem_cons.2 ⟨⟨_, _, hx⟩, ih hxs⟩

end forRange

/-! ## Decoding a JSON string -/

/-- The JSON value an `UnmarshalJSON` method receives, as far as decoding it into a `string`
can tell them apart. -/
inductive JsonValue
  | null
  | string (s : String)
  /-- A number, a boolean, an array or an object; `kind` is the word Go's error message uses. -/
  | other (kind : String)
deriving DecidableEq, Repr

/-- `var s string; json.Unmarshal(b, &s)`.  A JSON `null` leaves `s` at its zero value `""`. -/
def unmarshalString : JsonValue → Except String String
  | .null => .ok ""
  | .string s => .ok s
  | .other kind => .error ("json: cannot unmarshal " ++ kind ++ " into Go value of type string")

/-! ## `strconv.ParseInt` in base 10 -/

/-- Why `strconv` rejected a number: `strconv.ErrSyntax` or `strconv.ErrRange`. -/
inductive NumErrorKind
  | ErrSyntax
  | ErrRange
deriving DecidableEq, Repr

/-- `strconv.NumError`: the function, its input, and the reason. -/
structure NumError where
  Func : String
  Num : String
  Err : NumErrorKind
deriving DecidableEq, Repr

/-- The text of a `NumError`, as `strconv` formats it. -/
def NumError.Error (e : NumError) : String :=
  "strconv." ++ e.Func ++ ": parsing \"" ++ e.Num ++ "\": " ++
    match e.Err with
    | .ErrSyntax => "invalid syntax"
    | .ErrRange => "value out of range"

/-- The digit loop of `strconv.ParseUint(s, 10, bitSize)`, with `n` the value read so far and
`maxVal = 2^bitSize - 1`.  A non-digit is a syntax error and the first digit that takes the
value past `maxVal` a range error, whichever comes first.  (Go also checks `n * 10` against
`2^64`; with `maxVal < 2^64 / 10` that check never fires.) -/
def parseUintDigits (maxVal : Nat) : Nat → List Char → Except NumErrorKind Nat
  | n, [] => .ok n
  | n, c :: cs =>
    if c.isDigit then
      if maxVal < n * 10 + (c.toNat - '0'.toNat) then .error .ErrRange
      else parseUintDigits maxVal (n * 10 + (c.toNat - '0'.toNat)) cs
    else .error .ErrSyntax

/-- `strconv.ParseUint(s, 10, bitSize)`, for a `bitSize` between 1 and 64. -/
def ParseUint (s : List Char) (bitSize : Nat) : Except NumErrorKind Nat :=
  if s.isEmpty then .error .ErrSyntax else parseUintDigits (Nat.pow 2 bitSize - 1) 0 s

/-- `strconv.ParseInt(s, 10, bitSize)`, for a `bitSize` between 1 and 64: an optional sign,
then `ParseUint`, then the signed range `[-2^(bitSize-1), 2^(bitSize-1))`. -/
def ParseInt (s : List Char) (bitSize : Nat) : Except NumError Int :=
  let fail := fun (k : NumErrorKind) => Except.error (NumError.mk "ParseInt" (String.mk s) k)
  match s with
  | [] => fail .ErrSyntax
  | c :: cs =>
    let digits := if c = '+' ∨ c = '-' then cs else c :: cs
    match ParseUint digits bitSize with
    | .error k => fail k
    | .ok un =>
      if c = '-' then
        if Nat.pow 2 (bitSize - 1) < un then fail .ErrRange else .ok (-(un : Int))
      else
        if Nat.pow 2 (bitSize - 1) ≤ un then fail .ErrRange else .ok un

end NffNat
