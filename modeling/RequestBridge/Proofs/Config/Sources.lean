import RequestBridge.Config.Loader

/-! Sources replace each other.

A source gives a configuration of its own, whatever came before it, unless it is an optional file
that is not there, which leaves everything as it is (`Source.apply_eq`). So sources that all
succeed come to what the last one that is there makes of the defaults (`gather_of_succeeds`), and
otherwise the first failure is the failure of the whole (`gather_of_fails`). A file is read as its
content is, in the notation that its extension names (`Source.apply_file`). -/
namespace RequestBridge.Config

/-- Whether a source is an optional file that is not there. -/
def Source.isAbsent : Source → Bool
  | .file _ .missing optional => optional
  | _ => false

/-- The word that names a notation. -/
def Format.word : Format → String
  | .toml => "toml"
  | .json => "json"

namespace Source

theorem gather_singleton (s : Source) : gather [s] = s.apply {} := by
  show (s.apply {}).bind pure = s.apply {}
  cases s.apply {} <;> rfl

/-- A source that is there gives the same after any other sources. -/
theorem apply_eq (s : Source) (config : Config) :
    s.apply config = if s.isAbsent then .ok config else s.apply {} := by
  cases s with
  | preset p => rfl
  | text content format => rfl
  | file name state optional =>
    cases state with
    | missing => cases optional <;> rfl
    | unreadable => rfl
    | bytes content => rfl

theorem apply_of_isAbsent {s : Source} (h : s.isAbsent = true) : s.apply {} = .ok {} := by
  rw [apply_eq, if_pos h]

/-- Whether a source gives a configuration to a loader that has nothing but the defaults. -/
def Succeeds (s : Source) : Prop := ∃ c, s.apply {} = .ok c

instance (s : Source) : Decidable s.Succeeds :=
  match h : s.apply {} with
  | .ok c => .isTrue ⟨c, h⟩
  | .error _ => .isFalse fun ⟨_, hc⟩ => nomatch h.symm.trans hc

end Source

/-! ### Sources one after another -/

/-- The source that decides if all succeed. -/
def deciding? (sources : List Source) : Option Source :=
  (sources.filter (!·.isAbsent)).getLast?

/-- A run of sources that succeed comes from any configuration to what the last one that is there
makes of the defaults. -/
theorem foldlM_of_succeeds {sources : List Source} (h : ∀ s ∈ sources, s.Succeeds)
    (config : Config) :
    sources.foldlM (fun config source => source.apply config) config =
      match deciding? sources with
      | some s => s.apply {}
      | none => .ok config := by
  induction sources generalizing config with
  | nil => rfl
  | cons s rest ih =>
    have hrest : ∀ s ∈ rest, s.Succeeds := fun s hs => h s (List.mem_cons_of_mem _ hs)
    obtain ⟨c, hc⟩ := h s List.mem_cons_self
    rw [List.foldlM_cons, s.apply_eq]
    unfold deciding? at ih ⊢
    cases habsent : s.isAbsent with
    | true =>
      rw [List.filter_cons_of_neg (by simp [habsent])]
      exact ih hrest config
    | false =>
      rw [List.filter_cons_of_pos (by simp [habsent]), if_neg Bool.false_ne_true, hc,
        List.getLast?_cons]
      show rest.foldlM _ c = _
      rw [ih hrest c]
      cases (rest.filter (!·.isAbsent)).getLast? with
      | none => exact hc.symm
      | some last => rfl

theorem gather_of_succeeds {sources : List Source} (h : ∀ s ∈ sources, s.Succeeds) :
    gather sources =
      match deciding? sources with
      | some s => s.apply {}
      | none => .ok {} := foldlM_of_succeeds h {}

/-- The first source that fails decides, whatever comes after it. -/
theorem gather_of_fails {before after : List Source} {s : Source} {e : LoadError}
    (hbefore : ∀ s ∈ before, s.Succeeds) (hs : s.apply {} = .error e) :
    gather (before ++ s :: after) = .error e := by
  have hthere : s.isAbsent = false := by
    cases habsent : s.isAbsent with
    | false => rfl
    | true => cases hs.symm.trans (Source.apply_of_isAbsent habsent)
  have hfails : ∀ config, (s :: after).foldlM (fun config source => source.apply config) config
      = .error e := by
    intro config
    rw [List.foldlM_cons, s.apply_eq, hthere, if_neg Bool.false_ne_true, hs]
    rfl
  unfold gather
  rw [List.foldlM_append, foldlM_of_succeeds hbefore]
  cases hdeciding : deciding? before with
  | none => exact hfails {}
  | some last =>
    obtain ⟨c, hc⟩ := hbefore last (List.mem_filter.mp (List.mem_of_getLast? hdeciding)).1
    show (last.apply {}).bind _ = _
    rw [hc]
    exact hfails c

/-- Sources that do not all succeed have a first one that fails. -/
theorem exists_first_failure {sources : List Source} (h : ¬ ∀ s ∈ sources, s.Succeeds) :
    ∃ before s after e, sources = before ++ s :: after ∧ (∀ s ∈ before, s.Succeeds) ∧
      s.apply {} = .error e := by
  induction sources with
  | nil => exact absurd (fun s hs => absurd hs List.not_mem_nil) h
  | cons s rest ih =>
    cases hs : s.apply {} with
    | error e => exact ⟨[], s, rest, e, rfl, fun s hs => absurd hs List.not_mem_nil, hs⟩
    | ok c =>
      have hrest : ¬ ∀ s ∈ rest, s.Succeeds := fun hrest =>
        h (List.forall_mem_cons.mpr ⟨⟨c, hs⟩, hrest⟩)
      obtain ⟨before, last, after, e, rfl, hbefore, hlast⟩ := ih hrest
      exact ⟨s :: before, last, after, e, rfl, List.forall_mem_cons.mpr ⟨⟨c, hs⟩, hbefore⟩, hlast⟩

/-- Sources are gathered without failure exactly if each of them succeeds by itself. -/
theorem exists_gather_eq_ok_iff {sources : List Source} :
    (∃ c, gather sources = .ok c) ↔ ∀ s ∈ sources, s.Succeeds := by
  constructor
  · rintro ⟨c, hc⟩
    by_cases h : ∀ s ∈ sources, s.Succeeds
    · exact h
    · obtain ⟨before, s, after, e, rfl, hbefore, hs⟩ := exists_first_failure h
      cases hc.symm.trans (gather_of_fails hbefore hs)
  · intro h
    rw [gather_of_succeeds h]
    cases hdeciding : deciding? sources with
    | none => exact ⟨{}, rfl⟩
    | some last => exact h last (List.mem_filter.mp (List.mem_of_getLast? hdeciding)).1

/-! ### Loading -/

/-- Sources that come to the same load the same. -/
theorem load_congr {sources others : List Source} (h : gather sources = gather others) :
    load sources = load others := by
  unfold load
  rw [h]

theorem load_of_gather_error {sources : List Source} {e : LoadError}
    (h : gather sources = .error e) : load sources = .error e := by
  unfold load
  rw [h]
  rfl

theorem load_of_gather_ok {sources : List Source} {c : Config} (h : gather sources = .ok c) :
    load sources = match c.check with
      | .ok () => .ok c
      | .error v => .error (.invalid v) := by
  unfold load
  rw [h]
  show (c.check.mapError LoadError.invalid).bind _ = _
  cases c.check <;> rfl

/-! ### Files -/

/-- The letters of a notation's word, in either case, name the notation. -/
theorem Format.ofName?_of_toLower {name : String} {format : Format}
    (h : name.toList.map Char.toLower = format.word.toList) :
    Format.ofName? name = some format := by
  unfold Format.ofName?
  rw [h, String.ofList_toList]
  cases format <;> rfl

/-- A file is read as its content is in the notation of its extension. -/
theorem Source.apply_file {name content ext : String} {bytes : Bytes} {format : Format}
    (hcontent : Utf8.decode? bytes = some content) (hext : extension? name = some ext)
    (hformat : ext.toList.map Char.toLower = format.word.toList) (optional : Bool)
    (config : Config) :
    (Source.file name (.bytes bytes) optional).apply config =
      (Source.text content ext).apply config := by
  have hname := Format.ofName?_of_toLower hformat
  simp only [Source.apply, hcontent, hext, Option.bind_some, hname]
  rfl

/-! ### Sources replace each other -/

theorem ofNamedText_ne_invalid (format? : Option Format) (name content : String)
    (v : Violation) : ofNamedText format? name content ≠ .error (.invalid v) := by
  intro h
  cases format? with
  | none => cases h
  | some format =>
    change (ofText format content).mapError _ = _ at h
    cases htext : ofText format content <;> rw [htext] at h <;> cases h

theorem Source.apply_ne_invalid (s : Source) (config : Config) (v : Violation) :
    s.apply config ≠ .error (.invalid v) := by
  intro h
  cases s with
  | preset p => cases h
  | text content format => exact ofNamedText_ne_invalid _ _ _ v h
  | file name state optional =>
    cases state with
    | missing => cases optional <;> cases h
    | unreadable => cases h
    | bytes content =>
      simp only [Source.apply] at h
      split at h
      · cases h
      · exact ofNamedText_ne_invalid _ _ _ v h

/-- Gathering never complains of what a configuration says. -/
theorem gather_ne_invalid (sources : List Source) (v : Violation) :
    gather sources ≠ .error (.invalid v) := by
  intro h
  have hfailed : ¬ ∀ s ∈ sources, s.Succeeds := fun hall => by
    obtain ⟨c, hc⟩ := exists_gather_eq_ok_iff.mpr hall
    cases h.symm.trans hc
  obtain ⟨before, s, after, e, rfl, hbefore, hs⟩ := exists_first_failure hfailed
  cases (gather_of_fails hbefore hs).symm.trans h
  exact s.apply_ne_invalid {} v hs

theorem load_eq_ok_iff {sources : List Source} {c : Config} :
    load sources = .ok c ↔ gather sources = .ok c ∧ c.check = .ok () := by
  cases hgather : gather sources with
  | error e => simp [load_of_gather_error hgather]
  | ok given =>
    rw [load_of_gather_ok hgather]
    cases hcheck : given.check with
    | ok u =>
      constructor
      · intro h
        cases h
        exact ⟨rfl, hcheck⟩
      · rintro ⟨h, -⟩
        cases h
        rfl
    | error v =>
      constructor
      · intro h
        cases h
      · rintro ⟨h, hc⟩
        cases h
        cases hcheck.symm.trans hc

theorem load_eq_invalid_iff {sources : List Source} {v : Violation} :
    load sources = .error (.invalid v) ↔ ∃ c, gather sources = .ok c ∧ c.check = .error v := by
  cases hgather : gather sources with
  | error e =>
    rw [load_of_gather_error hgather]
    constructor
    · intro h
      cases h
      exact absurd hgather (gather_ne_invalid sources v)
    · rintro ⟨c, h, -⟩
      cases h
  | ok given =>
    rw [load_of_gather_ok hgather]
    cases hcheck : given.check with
    | ok u =>
      constructor
      · intro h
        cases h
      · rintro ⟨c, h, hc⟩
        cases h
        cases hcheck.symm.trans hc
    | error w =>
      constructor
      · intro h
        cases h
        exact ⟨given, rfl, hcheck⟩
      · rintro ⟨c, h, hc⟩
        cases h
        cases hcheck.symm.trans hc
        rfl

/-- Over every list of sources: what the last source that is there makes of the defaults is what all
come to if all succeed, the first failure decides otherwise, loading judges nothing but what was
gathered, and a file is read as its content is in the notation of its extension, whether or not it
may be missing. -/
theorem sources_replace :
    (∀ sources : List Source,
      ((∃ c, gather sources = .ok c) ↔ ∀ s ∈ sources, s.Succeeds) ∧
      ((∀ s ∈ sources, s.Succeeds) →
        match deciding? sources with
        | some s => gather sources = s.apply {} ∧ gather [s] = s.apply {} ∧ load sources = load [s]
        | none => gather sources = .ok {} ∧ load sources = load []) ∧
      (∀ c, load sources = .ok c ↔ gather sources = .ok c ∧ c.check = .ok ()) ∧
      (∀ v, load sources = .error (.invalid v) ↔
        ∃ c, gather sources = .ok c ∧ c.check = .error v)) ∧
    (∀ before s after e, (∀ s ∈ before, s.Succeeds) → s.apply {} = .error e →
      gather (before ++ s :: after) = .error e ∧ load (before ++ s :: after) = .error e) ∧
    (∀ name content ext bytes, Utf8.decode? bytes = some content → extension? name = some ext →
      ∀ format : Format, ext.toList.map Char.toLower = format.word.toList →
      ∀ optional config,
        (Source.file name (.bytes bytes) optional).apply config =
          (Source.text content ext).apply config ∧
        (Source.text content ext).apply config =
          (ofText format content).mapError (.content format)) := by
  refine ⟨fun sources => ⟨exists_gather_eq_ok_iff, ?_, fun c => load_eq_ok_iff,
    fun v => load_eq_invalid_iff⟩, ?_, ?_⟩
  · intro h
    have hgather := gather_of_succeeds h
    cases hdeciding : deciding? sources with
    | none =>
      rw [hdeciding] at hgather
      exact ⟨hgather, load_congr hgather⟩
    | some s =>
      rw [hdeciding] at hgather
      have hself := s.gather_singleton
      exact ⟨hgather, hself, load_congr (hgather.trans hself.symm)⟩
  · intro before s after e hbefore hs
    have hgather : gather (before ++ s :: after) = .error e := gather_of_fails hbefore hs
    exact ⟨hgather, load_of_gather_error hgather⟩
  · intro name content ext bytes hcontent hext format hformat optional config
    refine ⟨Source.apply_file hcontent hext hformat optional config, ?_⟩
    show ofNamedText (Format.ofName? ext) ext content = _
    rw [Format.ofName?_of_toLower hformat]
    rfl

/-- A port that no check lets pass. -/
def portZero : Source := .text "\x7b\"server\":\x7b\"port\":0\x7d\x7d" "json"

/-- A file whose extension is written in mixed case. -/
def mixedCase (optional : Bool) : Source :=
  .file "conf/kiri.ToMl" (.bytes (Utf8.encode "[server]\nport = 3000")) optional

def absent : Source := .file "absent.json" .missing true

/-- A port zero that is replaced is not reported, a source of no known format fails whatever
follows, and the file gives what its content does. -/
theorem replaced_port_zero_is_not_reported :
    (∀ s ∈ [portZero, mixedCase false, absent], s.Succeeds) ∧
    gather [portZero, mixedCase false, absent] = (mixedCase false).apply {} ∧
    load [portZero, mixedCase false, absent] = load [mixedCase false] ∧
    load [portZero, .text "" "yaml", mixedCase false] = .error (.unsupported "yaml") ∧
    (mixedCase true).apply {} = (Source.text "[server]\nport = 3000" "ToMl").apply {} := by
  have hall : ∀ s ∈ [portZero, mixedCase false, absent], s.Succeeds := by decide +kernel
  have hreplaced := (sources_replace.1 [portZero, mixedCase false, absent]).2.1 hall
  have hfails := sources_replace.2.1 [portZero] (.text "" "yaml") [mixedCase false]
    (.unsupported "yaml") (by decide +kernel) rfl
  have hfile := sources_replace.2.2 "conf/kiri.ToMl" "[server]\nport = 3000" "ToMl"
    (Utf8.encode "[server]\nport = 3000") (by decide +kernel) (by decide +kernel) .toml
    (by decide +kernel) true {}
  exact ⟨hall, hreplaced.1, hreplaced.2.2, hfails.2, hfile.1⟩

end RequestBridge.Config
