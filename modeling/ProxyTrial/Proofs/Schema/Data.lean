import ProxyTrial.Proofs.Schema.Expectation
import ProxyTrial.Proofs.Script.WellFormed
/-!
# Scripts as data

A script can be given as plain data: each of its parts is a mapping from the names of its fields to
their values. The rules that data has to obey are broken by no well-formed script, and checking its
data gives the script back.

## Main definitions

* `Script.data`, `Handler.data`, `Client.data`, `Expectation.data`: parts of a script as data

## Main results

* `Schema.list_map`, `Schema.textMap_headers`: collections
* `Schema.expectation_data`: expectations with the pattern of their value
* `Schema.script_data`: well-formed scripts
-/

namespace ProxyTrial

/-! ## Data -/

/-- Headers as data. -/
def Headers.data (hs : Headers) : Value := .map (hs.map fun h => (.text h.1, .text h.2))

/-- A reply as data. -/
def Reply.data (r : Reply) : Value := .map [
  (.text "status_code", .int r.status), (.text "headers", Headers.data r.headers),
  (.text "body", .text r.body)]

/-- A call as data. -/
def Call.data (c : Call) : Value := .map [
  (.text "method", .text c.method), (.text "uri", .text c.target),
  (.text "headers", Headers.data c.headers), (.text "body", .text c.body)]

/-- The name of the header that a subject is, as data. -/
def Subject.nameData : Subject → Value
  | .header name => .text name
  | _ => .null

/-- The pattern of an expectation as data: the text of it, which is the expected value. -/
def Expectation.patternData (e : Expectation) : Value :=
  match e.comparison with
  | .contains _ => .text e.expected
  | _ => .null

/-- The fields of an expectation as data. -/
def Expectation.entries (e : Expectation) : List (Value × Value) := [
  (.text "side", .text e.side.word), (.text "field", .text e.subject.word),
  (.text "header_name", e.subject.nameData), (.text "operator", .text e.comparison.word),
  (.text "expected", .text e.expected), (.text "verbatim", .text e.verbatim),
  (.text "pattern", e.patternData)]

/-- An expectation as data. -/
def Expectation.data (e : Expectation) : Value := .map e.entries

/-- A handler as data. -/
def Handler.data (h : Handler) : Value := .map [
  (.text "uri_path", .text h.path),
  (.text "expectations", .list (h.expectations.map Expectation.data)),
  (.text "response", h.reply.data)]

/-- A client as data. -/
def Client.data (c : Client) : Value := .map [
  (.text "name", .text c.name), (.text "request", c.call.data),
  (.text "expectations", .list (c.expectations.map Expectation.data))]

/-- A script as data. -/
def Script.data (s : Script) : Value := .map [
  (.text "handlers", .list (s.handlers.map Handler.data)),
  (.text "clients", .list (s.clients.map Client.data))]

namespace Schema

open Checked

variable {α : Type} {form : Value → Checked α} {es : List (Value × Value)} {v : Value} {a : α}
  {name : String}

/-! ## Fields and collections -/

theorem required_of_entry (hentry : Value.entry? name es = some v) (hform : form v = .ok a) :
    required name form es = .ok a :=
  required_eq_ok.2 ⟨v, hentry, hform⟩

theorem defaulted_of_entry {default : α} (hentry : Value.entry? name es = some v)
    (hform : form v = .ok a) : defaulted name form default es = .ok a :=
  defaulted_eq_ok.2 (.inr ⟨v, hentry, hform⟩)

theorem text_text (s : String) : text (.text s) = .ok s := rfl

/-- A list of data is checked item by item. -/
theorem list_map {data : α → Value} {as : List α} (h : ∀ a ∈ as, form (data a) = .ok a) :
    list form (.list (as.map data)) = .ok as := by
  suffices ∀ k, all (((as.map data).zipIdx k).map fun x => (form x.1).under (.index x.2)) =
      .ok as from this 0
  induction as with
  | nil => exact fun _ => rfl
  | cons a as ih =>
    intro k
    rw [List.forall_mem_cons] at h
    simp only [List.map_cons, List.zipIdx_cons, all, ih h.2, h.1]
    rfl

/-- A key that is new comes last. -/
theorem put_of_notMem {k v : String} {entries : List (String × String)}
    (h : ∀ e ∈ entries, e.1 ≠ k) : textMap.put k v entries = entries ++ [(k, v)] := by
  induction entries with
  | nil => rfl
  | cons e entries ih =>
    rw [List.forall_mem_cons] at h
    simp only [textMap.put, beq_iff_eq, if_neg h.1, ih h.2, List.cons_append]

theorem foldl_put (hs entries : List (String × String))
    (hdistinct : (entries ++ hs).Pairwise fun g h => g.1 ≠ h.1) :
    hs.foldl (fun acc (k, v) => textMap.put k v acc) entries = entries ++ hs := by
  induction hs generalizing entries with
  | nil => rw [List.append_nil]; rfl
  | cons h hs ih =>
    have hnew : ∀ e ∈ entries, e.1 ≠ h.1 := fun e he =>
      (List.pairwise_append.1 hdistinct).2.2 e he h List.mem_cons_self
    rw [List.append_cons] at hdistinct ⊢
    simp only [List.foldl_cons, put_of_notMem hnew]
    exact ih _ hdistinct

/-- Headers with different names are checked one by one. -/
theorem textMap_headers {hs : Headers} (hdistinct : hs.Pairwise fun g h => g.1 ≠ h.1) :
    textMap (Headers.data hs) = .ok hs := by
  have hall : all ((hs.map fun h : String × String => (Value.text h.1, Value.text h.2)).map
      fun e => both (((text e.1).under (.name "[key]")).under (stepOf e.1))
        ((text e.2).under (stepOf e.1))) = .ok hs := by
    clear hdistinct
    induction hs with
    | nil => rfl
    | cons h hs ih =>
      rw [List.map_cons, List.map_cons, all, ih]
      rfl
  refine (congrArg (Except.map _) hall).trans ?_
  exact congrArg Except.ok (foldl_put hs [] hdistinct)

/-! ## The parts of a script -/

theorem distinct_of_wellFormed {hs : Headers} (h : Headers.WellFormed hs) :
    hs.Pairwise fun g h => g.1 ≠ h.1 :=
  h.distinct.imp fun hlower hsame => hlower (congrArg Text.lower hsame)

theorem reply_data {r : Reply} (h : Headers.WellFormed r.headers) : reply r.data = .ok r := by
  have hheaders := textMap_headers (distinct_of_wellFormed h)
  simp only [reply, Reply.data, entries, ok_bind]
  rw [defaulted_of_entry (a := r.status) rfl rfl, defaulted_of_entry (a := r.headers) rfl hheaders,
    defaulted_of_entry (a := r.body) rfl rfl]
  rfl

theorem call_data {c : Call} (h : Headers.WellFormed c.headers) : call c.data = .ok c := by
  have hheaders := textMap_headers (distinct_of_wellFormed h)
  simp only [call, Call.data, entries, ok_bind]
  rw [defaulted_of_entry (a := c.method) rfl rfl, defaulted_of_entry (a := c.target) rfl rfl,
    defaulted_of_entry (a := c.headers) rfl hheaders, defaulted_of_entry (a := c.body) rfl rfl]
  rfl

theorem statedBy_entries (e : Expectation) : e.StatedBy e.entries where
  side := rfl
  field := rfl
  name := by
    obtain ⟨side, subject, comparison, expected, verbatim⟩ := e
    cases subject with
    | header name => exact ⟨.text name, rfl, nofun, rfl⟩
    | method | status | body => exact .inr rfl
  operator := rfl
  expected := ⟨_, rfl, rfl⟩
  verbatim := .inr ⟨_, rfl, rfl⟩

/-- An expectation can be given as data if its pattern is that of its value. -/
theorem expectation_data {e : Expectation} (h : e.Lawful) : expectation e.data = .ok e := by
  refine expectation_eq_ok_iff.2 ⟨statedBy_entries e, ?_⟩
  have hentry : Value.entry? "pattern" e.entries = some e.patternData := rfl
  rw [Expectation.patternData] at hentry
  cases hc : e.comparison with
  | equal | differs =>
    rw [hc] at hentry
    exact .none (by rw [hc]; rfl) (.inr hentry)
  | contains p =>
    rw [hc] at hentry
    exact .given (by rw [hc]; rfl) hentry (h.compiled p hc)

theorem handler_data {h : Handler} (hh : h.WellFormed) : handler h.data = .ok h := by
  have hpath : absolutePath (.text h.path) = .ok h.path := by
    rw [absolutePath, text_text, ok_bind, if_pos hh.slash]
  have hexpectations : list expectation (.list (h.expectations.map Expectation.data)) =
      .ok h.expectations := list_map fun e he => expectation_data ⟨(hh.expectations e he).pattern⟩
  simp only [handler, Handler.data, entries, ok_bind]
  rw [required_of_entry (a := h.path) rfl hpath,
    defaulted_of_entry (a := h.expectations) rfl hexpectations,
    defaulted_of_entry (a := h.reply) rfl (reply_data hh.reply.headers)]
  rfl

theorem client_data {c : Client} (h : c.WellFormed) : client c.data = .ok c := by
  have hexpectations : list expectation (.list (c.expectations.map Expectation.data)) =
      .ok c.expectations := list_map fun e he => expectation_data ⟨(h.expectations e he).pattern⟩
  simp only [client, Client.data, entries, ok_bind]
  rw [required_of_entry (a := c.name) rfl rfl,
    defaulted_of_entry (a := c.call) rfl (call_data h.call.headers),
    defaulted_of_entry (a := c.expectations) rfl hexpectations]
  rfl

/-- Well-formed scripts pass every check that data has to pass. -/
theorem script_data {s : Script} (h : s.WellFormed) : script s.data = .ok s := by
  have hhandlers : list handler (.list (s.handlers.map Handler.data)) = .ok s.handlers :=
    list_map fun h' hh => handler_data (h.handlers h' hh)
  have hclients : list client (.list (s.clients.map Client.data)) = .ok s.clients :=
    list_map fun c hc => client_data (h.clients c hc)
  have hnonempty : ¬ (s.handlers.isEmpty && s.clients.isEmpty) = true := by
    rw [Bool.and_eq_true, List.isEmpty_iff, List.isEmpty_iff, not_and_or]
    exact h.nonempty
  simp only [script, Script.data, entries, ok_bind]
  rw [defaulted_of_entry (a := s.handlers) rfl hhandlers,
    defaulted_of_entry (a := s.clients) rfl hclients]
  exact if_neg hnonempty

end Schema

end ProxyTrial
