import NffNat.Go.Basic

/-!
# The address parsers of Go's `net` package

The configuration code never parses an address itself: it hands the text to `net.ParseIP`,
`net.ParseCIDR` and `net.SplitHostPort` and then reshapes what comes back with `IP.To4`,
`IP.To16` and `copy`.  Whether a subnet check means what it should therefore depends on the
shape of those results, and this file models the functions as Go's `net/ip.go` and
`net/ipsock.go` write them (the version that rejects leading zeros in IPv4 fields).

An `IP` is a byte slice, and as in Go the empty slice is `nil`.  What the rest of the
development needs from this file is the shape of the results:

* `ParseIP` and both branches of `ParseCIDR` return either `nil` or 16 bytes
  (`parseIPv4_length`, `parseIPv6_length`), an IPv4 address in its IPv4-mapped form;
* `IP.To4` returns `nil` or 4 bytes;
* the mask `ParseCIDR` returns is `CIDRMask n (8 * iplen)` for the `n` written after the slash,
  with `n ≤ 8 * iplen` (`ParseCIDR_eq_ok`).
-/

set_option autoImplicit false

namespace NffNat

/-- `net.IP`: the bytes of an address, 4 or 16 of them, or none for `nil`. -/
abbrev IP := List UInt8

/-- `net.IPMask`: as many bytes as the address it masks. -/
abbrev IPMask := List UInt8

/-- The first 12 bytes of an IPv4 address in 16-byte form, `::ffff:0:0/96`. -/
def v4InV6Prefix : List UInt8 := [0, 0, 0, 0, 0, 0, 0, 0, 0, 0, 0xff, 0xff]

/-- `net.IPv4(a, b, c, d)`: the 16-byte form of the IPv4 address `a.b.c.d`. -/
def IPv4 (a b c d : UInt8) : IP := v4InV6Prefix ++ [a, b, c, d]

@[simp] theorem IPv4_length (a b c d : UInt8) : (IPv4 a b c d).length = 16 := rfl

/-- The bound past which `dtoi` and `xtoi` give up, `0xFFFFFF`. -/
def big : Nat := 0xFFFFFF

/-! ## Numbers -/

/-- The loop of `dtoi`: `n` is the value read so far and `i` the digits consumed. -/
def dtoiLoop : Nat → Nat → List Char → Nat × Nat × Bool
  | n, i, [] => (n, i, true)
  | n, i, c :: cs =>
    if c.isDigit then
      if big ≤ n * 10 + (c.toNat - '0'.toNat) then (big, i, false)
      else dtoiLoop (n * 10 + (c.toNat - '0'.toNat)) (i + 1) cs
    else (n, i, true)

/-- `dtoi`: the decimal number at the start of `s`, the characters it took, and whether there
was one that stays below `big`. -/
def dtoi (s : List Char) : Nat × Nat × Bool :=
  match dtoiLoop 0 0 s with
  | (n, i, true) => if i = 0 then (0, 0, false) else (n, i, true)
  | r => r

/-- The value of a hexadecimal digit, if `c` is one. -/
def hexDigit (c : Char) : Option Nat :=
  if c.isDigit then some (c.toNat - '0'.toNat)
  else if 'a' ≤ c ∧ c ≤ 'f' then some (c.toNat - 'a'.toNat + 10)
  else if 'A' ≤ c ∧ c ≤ 'F' then some (c.toNat - 'A'.toNat + 10)
  else none

/-- The loop of `xtoi`. -/
def xtoiLoop : Nat → Nat → List Char → Nat × Nat × Bool
  | n, i, [] => (n, i, true)
  | n, i, c :: cs =>
    match hexDigit c with
    | some d => if big ≤ n * 16 + d then (0, i, false) else xtoiLoop (n * 16 + d) (i + 1) cs
    | none => (n, i, true)

/-- `xtoi`: the hexadecimal number at the start of `s`, as `dtoi` does for decimals. -/
def xtoi (s : List Char) : Nat × Nat × Bool :=
  match xtoiLoop 0 0 s with
  | (n, i, true) => if i = 0 then (0, 0, false) else (n, i, true)
  | r => r

/-! ## IPv4 -/

/-- The field loop of `parseIPv4`: `k` fields are still to come, and every field but the first
is preceded by a dot.  Returns the bytes read and what is left of the input. -/
def parseIPv4Fields : Nat → Bool → List Char → Option (List UInt8 × List Char)
  | 0, _, s => some ([], s)
  | k + 1, first, s =>
    if s.isEmpty then none
    else
      let field := if first then some s else match s with
        | '.' :: t => some t
        | _ => none
      match field with
      | none => none
      | some s =>
        match dtoi s with
        | (n, c, ok) =>
          if ok = false ∨ 0xFF < n then none
          else if 1 < c ∧ s.head? = some '0' then none
          else (parseIPv4Fields k false (s.drop c)).map fun r ↦ (n.toUInt8 :: r.1, r.2)

/-- `parseIPv4`: four dotted decimal fields and nothing after them, in the 16-byte form. -/
def parseIPv4 (s : List Char) : IP :=
  match parseIPv4Fields 4 true s with
  | some ([a, b, c, d], []) => IPv4 a b c d
  | _ => []

/-- `parseIPv4` returns `nil` or an IPv4 address in its 16-byte form. -/
theorem parseIPv4_eq {s : List Char} :
    parseIPv4 s = [] ∨ ∃ a b c d, parseIPv4 s = IPv4 a b c d := by
  unfold parseIPv4
  split
  · exact .inr ⟨_, _, _, _, rfl⟩
  · exact .inl rfl

theorem parseIPv4_length {s : List Char} (h : parseIPv4 s ≠ []) : (parseIPv4 s).length = 16 := by
  rcases parseIPv4_eq (s := s) with h' | ⟨a, b, c, d, h'⟩
  · exact absurd h' h
  · rw [h', IPv4_length]

/-! ## IPv6 -/

/-- The main loop of `parseIPv6`.  `acc` holds the bytes written so far (Go's `i` is its length)
and `ellipsis` the position of the `::`, if one was seen; the result is the state at `break`,
or `none` for `return nil`.  Every pass that goes round again writes two bytes, so the loop
condition `i < 16` has failed by the time eight passes are used up. -/
def parseIPv6Loop : Nat → List UInt8 → Option Nat → List Char →
    Option (List UInt8 × Option Nat × List Char)
  | 0, acc, ellipsis, s => some (acc, ellipsis, s)
  | fuel + 1, acc, ellipsis, s =>
    if 16 ≤ acc.length then some (acc, ellipsis, s)
    else
      match xtoi s with
      | (n, c, ok) =>
        if ok = false ∨ 0xFFFF < n then none
        else if s[c]? = some '.' then
          -- A trailing IPv4 address, in the last four bytes or after a `::`.
          if ellipsis = none ∧ acc.length ≠ 12 then none
          else if 16 < acc.length + 4 then none
          else if parseIPv4 s = [] then none
          else some (acc ++ (parseIPv4 s).drop 12, ellipsis, [])
        else
          match s.drop c with
          | [] => some (acc ++ [(n / 256).toUInt8, n.toUInt8], ellipsis, [])
          | [_] => none
          | ch :: t =>
            if ch ≠ ':' then none
            else match t with
              | ':' :: t' =>
                if ellipsis.isSome then none
                else if t'.isEmpty then
                  some (acc ++ [(n / 256).toUInt8, n.toUInt8], some (acc.length + 2), [])
                else
                  parseIPv6Loop fuel (acc ++ [(n / 256).toUInt8, n.toUInt8])
                    (some (acc.length + 2)) t'
              | _ => parseIPv6Loop fuel (acc ++ [(n / 256).toUInt8, n.toUInt8]) ellipsis t

/-- The end of `parseIPv6`, once its loop has stopped: the whole text must have been used, and
fewer than 16 bytes are allowed only with a `::`, which is expanded by moving the bytes after it
to the end, as Go's two back-to-front copy loops do.  A `::` that stands for no group at all is
rejected. -/
def parseIPv6Finish : Option (List UInt8 × Option Nat × List Char) → IP
  | none => []
  | some (acc, ellipsis, s) =>
    if !s.isEmpty then []
    else if acc.length < 16 then
      match ellipsis with
      | none => []
      | some e => acc.take e ++ List.replicate (16 - acc.length) 0 ++ acc.drop e
    else if ellipsis.isSome then [] else acc

/-- `parseIPv6`: hexadecimal groups separated by colons, at most one `::` standing for a run of
zero groups, and possibly an IPv4 address in the last four bytes.  A leading `::` is taken
before the loop starts, and `::` alone is the zero address. -/
def parseIPv6 (s : List Char) : IP :=
  match s with
  | ':' :: ':' :: t =>
    if t.isEmpty then List.replicate 16 0 else parseIPv6Finish (parseIPv6Loop 8 [] (some 0) t)
  | _ => parseIPv6Finish (parseIPv6Loop 8 [] none s)

/-- What the loop of `parseIPv6` keeps true of its state: at most 16 bytes, an even number of
them, and the `::` at a position already written. -/
def V6Acc (acc : List UInt8) (ellipsis : Option Nat) : Prop :=
  acc.length ≤ 16 ∧ acc.length % 2 = 0 ∧ ∀ e ∈ ellipsis, e ≤ acc.length

/-- One 16-bit group written after fewer than 16 bytes keeps the invariant, whether or not a
`::` follows it. -/
theorem V6Acc.chunk {acc : List UInt8} {e : Option Nat} (h : V6Acc acc e) (hlt : acc.length < 16)
    (b : List UInt8) (hb : b.length = 2) :
    V6Acc (acc ++ b) e ∧ V6Acc (acc ++ b) (some (acc.length + 2)) := by
  obtain ⟨hle, heven, he⟩ := h
  refine ⟨⟨?_, ?_, fun k hk ↦ ?_⟩, ⟨?_, ?_, ?_⟩⟩ <;> simp only [List.length_append, hb] <;>
    try omega
  · have := he k hk; omega
  · simp

/-- So does a trailing IPv4 address written where four bytes are left. -/
theorem V6Acc.tail {acc : List UInt8} {e : Option Nat} (h : V6Acc acc e)
    (hle : acc.length + 4 ≤ 16) (b : List UInt8) (hb : b.length = 4) : V6Acc (acc ++ b) e := by
  obtain ⟨-, heven, he⟩ := h
  refine ⟨?_, ?_, fun k hk ↦ ?_⟩ <;> simp only [List.length_append, hb] <;> try omega
  have := he k hk; omega

/-- The loop of `parseIPv6` keeps `V6Acc`: whatever state it stops in has at most 16 bytes, an
even number of them, and the `::` at a position already written. -/
theorem parseIPv6Loop_v6Acc {fuel : Nat} {acc : List UInt8} {ellipsis : Option Nat}
    {s : List Char} {r : List UInt8 × Option Nat × List Char}
    (h : parseIPv6Loop fuel acc ellipsis s = some r) (hacc : V6Acc acc ellipsis) :
    V6Acc r.1 r.2.1 := by
  induction fuel generalizing acc ellipsis s with
  | zero => cases h; exact hacc
  | succ fuel ih =>
    rw [parseIPv6Loop] at h
    by_cases h16 : 16 ≤ acc.length
    · rw [if_pos h16] at h; cases h; exact hacc
    rw [if_neg h16] at h
    have hlt : acc.length < 16 := by omega
    generalize xtoi s = x at h
    obtain ⟨n, c, ok⟩ := x
    dsimp only at h
    by_cases hok : ok = false ∨ 0xFFFF < n
    · rw [if_pos hok] at h; exact Option.noConfusion h
    rw [if_neg hok] at h
    by_cases hdot : s[c]? = some '.'
    · -- the trailing IPv4 address
      rw [if_pos hdot] at h
      split_ifs at h with h₁ h₂ h₃
      cases h
      exact hacc.tail (by omega) _ (by simp [parseIPv4_length h₃])
    rw [if_neg hdot] at h
    generalize s.drop c = d at h
    rcases d with _ | ⟨ch, _ | ⟨ch', t⟩⟩
    · cases h; exact (hacc.chunk hlt [_, _] rfl).1
    · exact Option.noConfusion h
    dsimp only at h
    by_cases hc : ch ≠ ':'
    · rw [if_pos hc] at h; exact Option.noConfusion h
    rw [if_neg hc] at h
    split at h
    · split_ifs at h
      · cases h; exact (hacc.chunk hlt [_, _] rfl).2
      · exact ih h (hacc.chunk hlt [_, _] rfl).2
    · exact ih h (hacc.chunk hlt [_, _] rfl).1

/-- From such a state the end of `parseIPv6` returns `nil` or 16 bytes. -/
theorem parseIPv6Finish_length {acc : List UInt8} {e : Option Nat} {s : List Char}
    (hr : V6Acc acc e) (h : parseIPv6Finish (some (acc, e, s)) ≠ []) :
    (parseIPv6Finish (some (acc, e, s))).length = 16 := by
  obtain ⟨hle, -, he⟩ := hr
  simp only [parseIPv6Finish] at h ⊢
  by_cases hs : (!s.isEmpty) = true
  · rw [if_pos hs] at h; exact absurd rfl h
  rw [if_neg hs] at h ⊢
  by_cases hl : acc.length < 16
  · rw [if_pos hl] at h ⊢
    rcases e with _ | e
    · exact absurd rfl h
    · have := he e rfl
      simp only [List.length_append, List.length_take, List.length_replicate, List.length_drop]
      omega
  · rw [if_neg hl] at h ⊢
    rcases e with _ | e
    · show acc.length = 16; omega
    · exact absurd rfl h

/-- `parseIPv6` is the zero address, or the end of the loop started with no bytes and at most a
`::` at position 0. -/
theorem parseIPv6_cases (s : List Char) :
    parseIPv6 s = List.replicate 16 0 ∨
      ∃ e t, (∀ k ∈ e, k = 0) ∧ parseIPv6 s = parseIPv6Finish (parseIPv6Loop 8 [] e t) := by
  unfold parseIPv6
  split
  · split
    · exact .inl rfl
    · exact .inr ⟨some 0, _, by simp, rfl⟩
  · exact .inr ⟨none, _, by simp, rfl⟩

/-- `parseIPv6` returns `nil` or 16 bytes. -/
theorem parseIPv6_length {s : List Char} (h : parseIPv6 s ≠ []) : (parseIPv6 s).length = 16 := by
  rcases parseIPv6_cases s with hs | ⟨e, t, he, hs⟩
  · simp [hs]
  rw [hs] at h ⊢
  cases hr : parseIPv6Loop 8 [] e t with
  | none => simp [hr, parseIPv6Finish] at h
  | some r =>
    obtain ⟨acc, e', t'⟩ := r
    rw [hr] at h
    exact parseIPv6Finish_length
      (parseIPv6Loop_v6Acc hr ⟨by simp, rfl, fun k hk ↦ by simp [he k hk]⟩) h

/-- `net.ParseIP`: the first `.` or `:` in the text decides between the two grammars. -/
def ParseIP (s : List Char) : IP :=
  match s.find? (fun c ↦ c = '.' ∨ c = ':') with
  | some '.' => parseIPv4 s
  | some _ => parseIPv6 s
  | none => []

theorem ParseIP_length {s : List Char} (h : ParseIP s ≠ []) : (ParseIP s).length = 16 := by
  unfold ParseIP at *
  split at *
  · exact parseIPv4_length h
  · exact parseIPv6_length h
  · exact absurd rfl h

/-! ## Reshaping an address -/

/-- `IP.To4`: the four bytes of an IPv4 address, given in either form, and `nil` for anything
else. -/
def IP.To4 (ip : IP) : IP :=
  if ip.length = 4 then ip
  else if ip.length = 16 ∧ ip.take 12 = v4InV6Prefix then ip.drop 12
  else []

/-- `IP.To16`: the 16-byte form of an address, `nil` for anything that is not one. -/
def IP.To16 (ip : IP) : IP :=
  match ip with
  | [a, b, c, d] => IPv4 a b c d
  | _ => if ip.length = 16 then ip else []

theorem IP.To16_of_length {ip : IP} (h : ip.length = 16) : ip.To16 = ip := by
  unfold IP.To16
  split
  · simp at h
  · simp [h]

/-! ## Masks and CIDR notation -/

/-- The loop of `CIDRMask`: `l` bytes, the first `n` bits set.  A byte with `8 ≤ n` is `0xff`
and takes 8 of the ones; the first byte with fewer is `^byte(0xff >> n)` and takes the rest. -/
def cidrMaskBytes : Nat → Nat → List UInt8
  | 0, _ => []
  | l + 1, n =>
    (if 8 ≤ n then 0xff else ~~~((0xff : UInt8) >>> n.toUInt8)) :: cidrMaskBytes l (n - 8)

@[simp] theorem cidrMaskBytes_length (l n : Nat) : (cidrMaskBytes l n).length = l := by
  induction l generalizing n <;> simp [cidrMaskBytes, *]

/-- `net.CIDRMask(ones, bits)`: a mask of `bits / 8` bytes with its first `ones` bits set, or
`nil` unless `bits` is 32 or 128 and `ones ≤ bits`. -/
def CIDRMask (ones bits : Nat) : IPMask :=
  if bits ≠ 32 ∧ bits ≠ 128 then []
  else if bits < ones then []
  else cidrMaskBytes (bits / 8) ones

/-- The `IPNet` `ParseCIDR` returns.  Only its `Mask` is modelled: nothing in the
configuration code reads the network's `IP`. -/
structure IPNet where
  Mask : IPMask
deriving DecidableEq, Repr

/-- The end of `net.ParseCIDR`, once the address has been read: `ip` by the grammar of `iplen`
bytes, and `mask` the text after the slash, which must be a decimal no larger than
`8 * iplen`. -/
def parseCIDRMask (s : List Char) (iplen : Nat) (ip : IP) (mask : List Char) :
    Except String (IP × IPNet) :=
  match dtoi mask with
  | (n, j, ok) =>
    if ip = [] ∨ ok = false ∨ j ≠ mask.length ∨ 8 * iplen < n then
      .error ("invalid CIDR address: " ++ String.mk s)
    else .ok (ip, ⟨CIDRMask n (8 * iplen)⟩)

/-- `net.ParseCIDR`: an address, a `/`, and a prefix length.  The address is read as IPv4
first, then as IPv6, and the mask has the length of the grammar that accepted it. -/
def ParseCIDR (s : List Char) : Except String (IP × IPNet) :=
  match s.indexOf? '/' with
  | none => .error ("invalid CIDR address: " ++ String.mk s)
  | some i =>
    if parseIPv4 (s.take i) = [] then parseCIDRMask s 16 (parseIPv6 (s.take i)) (s.drop (i + 1))
    else parseCIDRMask s 4 (parseIPv4 (s.take i)) (s.drop (i + 1))

theorem parseCIDRMask_eq_ok {s : List Char} {iplen : Nat} {ip : IP} {mask : List Char}
    {r : IP × IPNet} (h : parseCIDRMask s iplen ip mask = .ok r) :
    r.1 = ip ∧ ip ≠ [] ∧ ∃ n, n ≤ 8 * iplen ∧ r.2.Mask = CIDRMask n (8 * iplen) := by
  unfold parseCIDRMask at h
  split at h
  split at h
  · cases h
  · rename_i n _ _ _ hok
    cases h
    simp only [not_or, not_lt] at hok
    exact ⟨rfl, hok.1, n, hok.2.2.2, rfl⟩

/-- What `ParseCIDR` returns when it accepts: a 16-byte address and the mask of the prefix
length that was written, as many bytes long as the address family. -/
theorem ParseCIDR_eq_ok {s : List Char} {ip : IP} {ipnet : IPNet}
    (h : ParseCIDR s = .ok (ip, ipnet)) :
    ip.length = 16 ∧ ∃ iplen n, (iplen = 4 ∨ iplen = 16) ∧ n ≤ 8 * iplen ∧
      ipnet.Mask = CIDRMask n (8 * iplen) := by
  unfold ParseCIDR at h
  split at h
  · cases h
  split at h
  · obtain ⟨rfl, hne, n, hn, hm⟩ := parseCIDRMask_eq_ok h
    exact ⟨parseIPv6_length hne, 16, n, .inr rfl, hn, hm⟩
  · obtain ⟨rfl, hne, n, hn, hm⟩ := parseCIDRMask_eq_ok h
    exact ⟨parseIPv4_length hne, 4, n, .inl rfl, hn, hm⟩

/-! ## Splitting `host:port` -/

/-- The index of the last `c` in `s`, Go's `last(s, c)`. -/
def lastIndexOf (c : Char) : List Char → Option Nat
  | [] => none
  | x :: xs =>
    match lastIndexOf c xs with
    | some j => some (j + 1)
    | none => if x = c then some 0 else none

/-- The text of a `net.AddrError`. -/
def AddrError (addr : List Char) (why : String) : String :=
  if addr.isEmpty then why else "address " ++ String.mk addr ++ ": " ++ why

/-- `net.SplitHostPort`: the port is what follows the last colon, and the host what precedes
it, without the brackets an IPv6 host must be written in. -/
def SplitHostPort (hostport : List Char) : Except String (List Char × List Char) :=
  let fail := fun (why : String) ↦
    (Except.error (AddrError hostport why) : Except String (List Char × List Char))
  match lastIndexOf ':' hostport with
  | none => fail "missing port in address"
  | some i =>
    let hostPart : Except String (List Char × Nat × Nat) :=
      if hostport.head? = some '[' then
        match hostport.indexOf? ']' with
        | none => .error (AddrError hostport "missing ']' in address")
        | some e =>
          if e + 1 = hostport.length then .error (AddrError hostport "missing port in address")
          else if e + 1 = i then .ok ((hostport.take e).drop 1, 1, e + 1)
          else if hostport[e + 1]? = some ':' then
            .error (AddrError hostport "too many colons in address")
          else .error (AddrError hostport "missing port in address")
      else if ':' ∈ hostport.take i then .error (AddrError hostport "too many colons in address")
      else .ok (hostport.take i, 0, 0)
    match hostPart with
    | .error e => .error e
    | .ok (host, j, k) =>
      if '[' ∈ hostport.drop j then fail "unexpected '[' in address"
      else if ']' ∈ hostport.drop k then fail "unexpected ']' in address"
      else .ok (host, hostport.drop (i + 1))

end NffNat
