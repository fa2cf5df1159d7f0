import ProxyTrial.Proofs.Origin.KeepAlive
/-!
# What a request leaves of a connection

Every reader takes octets from the front and leaves a suffix of what it was given. A turn takes the
request line at least; so the octets that it leaves are fewer, and their number is always fuel
enough for the turns that follow. What a conversation does with a rest is what it would do with the
rest alone.

## Main results

* `flatten_sectionLines`: the lines of a header section and what follows them make up the octets
* `suffix_read`: what is left after the body of a request
* `length_rest_lt`: a turn leaves fewer octets than it was given
* `converse_of_rest_some`: a conversation is a turn and the conversation about its rest
-/

namespace ProxyTrial

namespace Http

/-! ## Heads -/

/-- The lines of a section and the octets after them make up the octets. -/
theorem flatten_sectionLines {allowed : Nat} {bs rest : Bytes} {lines : List Bytes}
    (h : sectionLines allowed bs = .ok (lines, rest)) : lines.flatten ++ rest = bs := by
  induction allowed generalizing bs lines with
  | zero =>
    unfold sectionLines at h
    simp only at h
    split at h <;> cases h
  | succ allowed ih =>
    have hline := append_splitLine bs
    unfold sectionLines at h
    simp only at h
    split at h
    · cases h
    · split at h
      · cases h
        simpa using hline
      · obtain ⟨⟨more, rest⟩, hmore, h⟩ := map_eq_ok.1 h
        cases h
        rw [List.flatten_cons, List.append_assoc, ih hmore, hline]

theorem suffix_readHeaders {bs rest : Bytes} {fs : List (String × String)}
    (h : readHeaders bs = .ok (fs, rest)) : rest <:+ bs := by
  obtain ⟨⟨lines, rest⟩, hlines, h⟩ := map_eq_ok.1 h
  cases h
  exact ⟨_, flatten_sectionLines hlines⟩

/-- The head of a request and what follows it begin with a line. -/
theorem suffix_readHead {bs rest : Bytes} {head : Head}
    (h : readHead bs = .ok (some (head, rest))) : rest <:+ (splitLine bs).2 := by
  unfold readHead at h
  simp only at h
  split at h
  · cases h
  · obtain ⟨line, -, h⟩ := bind_eq_ok.1 h
    split at h
    · cases h
    · split at h
      · cases h
      · next hheaders =>
        cases h
        exact suffix_readHeaders hheaders

/-! ## Bodies -/

theorem suffix_skipTrailers (fuel : Nat) (bs : Bytes) : skipTrailers fuel bs <:+ bs := by
  induction fuel generalizing bs with
  | zero => exact List.suffix_refl bs
  | succ fuel ih =>
    rw [skipTrailers]
    simp only
    split
    · exact suffix_splitLine bs
    · exact (ih _).trans (suffix_splitLine bs)

theorem suffix_takeOctets {n : Nat} {bs data rest : Bytes}
    (h : takeOctets n bs = .ok (data, rest)) :
    rest <:+ bs := by
  unfold takeOctets at h
  split at h
  · obtain ⟨-, rfl⟩ := Prod.mk.inj (Except.ok.inj h)
    exact List.drop_suffix n bs
  · cases h

/-- What follows a chunked body. -/
theorem suffix_chunks {fuel : Nat} {bs body rest : Bytes}
    (h : chunks fuel bs = .ok (body, rest)) :
    rest <:+ bs := by
  induction fuel generalizing bs body with
  | zero =>
    cases h
    exact List.suffix_refl _
  | succ fuel ih =>
    have hline := suffix_splitLine bs
    unfold chunks at h
    simp only at h
    split at h
    · cases h
      exact hline
    · obtain ⟨size, -, h⟩ := bind_eq_ok.1 h
      -- The last chunk is followed by trailers, another by its data, a line end and more chunks.
      split at h
      · cases h
        exact (suffix_skipTrailers _ _).trans hline
      · obtain ⟨⟨data, more⟩, hdata, h⟩ := bind_eq_ok.1 h
        obtain ⟨⟨later, rest'⟩, hmore, h⟩ := bind_eq_ok.1 h
        cases h
        exact (ih hmore).trans ((suffix_splitLine more).trans ((suffix_takeOctets hdata).trans
          hline))

theorem suffix_readBody {fs : Fields} {bs body rest : Bytes}
    (h : readBody fs bs = .ok (body, rest)) : rest <:+ bs := by
  unfold readBody at h
  split at h
  · exact suffix_chunks h
  · obtain ⟨n, -, h⟩ := bind_eq_ok.1 h
    exact suffix_takeOctets h

end Http

/-- What follows the body of a request. -/
theorem Request.suffix_read {method target : String} {headers : List (String × String)}
    {input rest : Bytes} {r : Request}
    (h : Request.read method target headers input = .ok (r, rest)) : rest <:+ input := by
  unfold Request.read at h
  obtain ⟨fields, -, h⟩ := bind_eq_ok.1 h
  obtain ⟨⟨body, rest'⟩, hbody, h⟩ := bind_eq_ok.1 h
  obtain ⟨path, -, h⟩ := bind_eq_ok.1 h
  cases h
  exact Http.suffix_readBody (mapError_eq_ok.1 hbody)

namespace Origin

variable {t : Table} {input rest : Bytes}

/-! ## Turns -/

theorem rest_sendReply {h : Http.Head} {sent : Bytes} {failures : List String} {r : Reply}
    {more : Bytes} (hrest : (sendReply h sent failures r more).rest = some rest) : rest = more := by
  unfold sendReply at hrest
  split at hrest
  · cases hrest
  · simp only at hrest
    split at hrest
    · exact (Option.some.inj hrest).symm
    · cases hrest

theorem suffix_serve {h : Http.Head} (hrest : (serve t h input).rest = some rest) :
    rest <:+ input := by
  unfold serve at hrest
  simp only at hrest
  split at hrest
  · cases hread : Request.read h.method h.target h.headers input with
    | error e =>
      rw [hread] at hrest
      simp only at hrest
      split at hrest
      · rw [rest_sendReply hrest]
        exact List.nil_suffix
      · cases hrest
    | ok result =>
      obtain ⟨r, more⟩ := result
      rw [hread] at hrest
      simp only at hrest
      split at hrest
      · rw [rest_sendReply hrest]
        exact Request.suffix_read hread
      · cases hrest
  · split at hrest <;> cases hrest

/-- A turn leaves fewer octets than it was given. -/
theorem length_rest_lt (h : (turn t input).rest = some rest) : rest.length < input.length := by
  cases input with
  | nil =>
    rw [turn_nil] at h
    cases h
  | cons b bs =>
    have hline : (Http.splitLine (b :: bs)).1 ≠ [] := by
      rw [Http.splitLine]
      split <;> exact List.cons_ne_nil _ _
    have hlength := congrArg List.length (Http.append_splitLine (b :: bs))
    rw [List.length_append] at hlength
    have hpos := List.length_pos_of_ne_nil hline
    unfold turn at h
    split at h
    · cases h
    · next hread =>
      have hle := ((suffix_serve h).trans (Http.suffix_readHead hread)).length_le
      omega
    · split at h <;> cases h

/-- Fuel beyond the number of octets makes no difference. -/
theorem turns_eq {fuel fuel' : Nat} (h : input.length < fuel) (h' : input.length < fuel') :
    turns t fuel input = turns t fuel' input := by
  induction fuel generalizing fuel' input with
  | zero => exact absurd h (Nat.not_lt_zero _)
  | succ fuel ih =>
    obtain ⟨fuel', rfl⟩ := Nat.exists_eq_add_one_of_ne_zero (Nat.ne_zero_of_lt h')
    cases hrest : (turn t input).rest with
    | none => rw [turns_of_rest_none fuel hrest, turns_of_rest_none fuel' hrest]
    | some rest =>
      have hlt := length_rest_lt hrest
      have hmore : turns t fuel rest = turns t fuel' rest := ih (by omega) (by omega)
      rw [turns_of_rest_some fuel hrest, turns_of_rest_some fuel' hrest, hmore]

/-- A conversation ends with a turn that leaves nothing. -/
theorem converse_of_rest_none (h : (turn t input).rest = none) : converse t input = turn t input :=
  turns_of_rest_none _ h

/-- A conversation is a turn and the conversation about what it leaves. -/
theorem converse_of_rest_some (h : (turn t input).rest = some rest) :
    converse t input =
      { converse t rest with
        sent := (turn t input).sent ++ (converse t rest).sent
        failures := (turn t input).failures ++ (converse t rest).failures } := by
  have hmore : turns t input.length rest = converse t rest :=
    turns_eq (length_rest_lt h) (Nat.lt_succ_self _)
  rw [converse, turns_of_rest_some _ h, hmore]

/-- Octets that bring about the same turn bring about the same conversation. -/
theorem converse_congr {input' : Bytes} (h : turn t input = turn t input') :
    converse t input = converse t input' := by
  cases hrest : (turn t input).rest with
  | none => rw [converse_of_rest_none hrest, converse_of_rest_none (h ▸ hrest), h]
  | some rest =>
    have hrest' : (turn t input').rest = some rest := h ▸ hrest
    rw [converse_of_rest_some hrest, converse_of_rest_some hrest', h]

end Origin

end ProxyTrial
