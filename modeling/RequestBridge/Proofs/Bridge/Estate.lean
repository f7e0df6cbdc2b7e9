import RequestBridge.Proofs.Bridge.Turns
import RequestBridge.Proofs.Engine.Custody

/-! Who owns the tables of an engine, and what becomes of them.

A router is owned by those who hold it and by the servers that were prepared for it. What is done to
owners, tables and servers is one of a few steps (`Estate.Step`), and each of them keeps the estate
in good order (`Estate.Kept.step`): a table is there as long as its router has an owner, it is freed
with the last one, and a server that still runs is an owner. -/
namespace RequestBridge

theorem Evolves.set {α : Type} {R : α → α → Prop} {fresh : α → Prop} {l : List α} {i : Nat}
    {x y : α} (hrefl : ∀ x, R x x) (hx : l[i]? = some x) (hxy : R x y) :
    Evolves R fresh l (l.set i y) := by
  have hlt := (List.getElem?_eq_some_iff.mp hx).1
  refine ⟨?_, ?_⟩
  · intro j z hz
    by_cases hij : i = j
    · subst hij
      cases hx.symm.trans hz
      exact ⟨y, List.getElem?_set_self hlt, hxy⟩
    · exact ⟨z, by rw [List.getElem?_set_ne hij, hz], hrefl z⟩
  · intro j z hz
    rcases getElem?_set_cases hz with ⟨rfl, rfl⟩ | ⟨_, hz⟩
    · exact .inl ⟨x, hx, hxy⟩
    · exact .inl ⟨z, hz, hrefl z⟩

/-- A server as one of those who own a router. -/
structure Tenant where
  router : RouterId
  dropped : Bool
  handle : Option Address

/-- All that ownership is about. -/
structure Estate where
  /-- The tables of the routers. -/
  titles : List Address
  /-- How many hold each router, servers not counted. -/
  holders : List Nat
  tenants : List Tenant
  /-- The tables that the engine has. -/
  tables : List Address
  custody : List Call
  next : Address

namespace Estate
variable {e e' e'' : Estate} {r : RouterId}

/-- Whether anyone owns a router. -/
def Owned (e : Estate) (r : RouterId) : Prop :=
  (∃ n, e.holders[r]? = some (n + 1)) ∨
    ∃ (s : ServerId) (t : Tenant), e.tenants[s]? = some t ∧ t.dropped = false ∧ t.router = r

/-- One owner of a router gives it up. A server does so when it does not run. -/
inductive GivesUp (r : RouterId) (e : Estate) : Estate → Prop
  | holder {n : Nat} (hholders : e.holders[r]? = some (n + 1)) :
      GivesUp r e { e with holders := e.holders.set r n }
  | tenant {s : ServerId} {t : Tenant} (htenant : e.tenants[s]? = some t) (hrouter : t.router = r)
      (hkept : t.dropped = false) (hidle : t.handle = none) :
      GivesUp r e { e with tenants := e.tenants.set s { t with dropped := true } }

inductive Step (e : Estate) : Estate → Prop
  /-- Addresses are handed out for other things. -/
  | passes {next : Address} (hnext : e.next ≤ next) : Step e { e with next }
  /-- A new router has one holder. -/
  | founds {next : Address} (hnext : e.next < next) :
      Step e { e with
        titles := e.titles ++ [e.next]
        holders := e.holders ++ [1]
        tables := e.next :: e.tables
        custody := .tableCreated e.next :: e.custody
        next }
  | shares {r : RouterId} {n : Nat} (howned : e.Owned r) (hholders : e.holders[r]? = some n) :
      Step e { e with holders := e.holders.set r (n + 1) }
  | settles {r : RouterId} (howned : e.Owned r) :
      Step e { e with tenants := e.tenants ++ [⟨r, false, none⟩] }
  | starts {s : ServerId} {t : Tenant} {next : Address} (port : UInt16)
      (htenant : e.tenants[s]? = some t) (hkept : t.dropped = false) (hidle : t.handle = none)
      (hnext : e.next < next) :
      Step e { e with
        tenants := e.tenants.set s { t with handle := some e.next }
        custody := .serverStarted e.next port e.titles[t.router]? :: e.custody
        next }
  | stops {s : ServerId} {t : Tenant} {a : Address} (htenant : e.tenants[s]? = some t)
      (hruns : t.handle = some a) :
      Step e { e with
        tenants := e.tenants.set s { t with handle := none }
        custody := .serverStopped a :: e.custody }
  /-- A router that still has an owner keeps its table. -/
  | loosens {r : RouterId} {e' : Estate} (hgives : GivesUp r e e') (howned : e'.Owned r) : Step e e'
  | frees {r : RouterId} {a : Address} {e' : Estate} (hgives : GivesUp r e e')
      (hunowned : ¬ e'.Owned r) (htitle : e.titles[r]? = some a) :
      Step e { e' with
        tables := e'.tables.erase a
        custody := .tableFreed a :: e'.custody }

inductive Steps : Estate → Estate → Prop
  | refl (e : Estate) : Steps e e
  | step {e e' e'' : Estate} (h : Step e e') (rest : Steps e' e'') : Steps e e''

theorem Step.steps (h : Step e e') : Steps e e' := .step h (.refl e')

theorem Steps.trans (h : Steps e e') (h' : Steps e' e'') : Steps e e'' := by
  induction h with
  | refl => exact h'
  | step hstep _ ih => exact .step hstep (ih h')

/-- Servers that have their routers. -/
structure Lodged (e : Estate) : Prop where
  rooted : ∀ (s : ServerId) t, e.tenants[s]? = some t → t.router < e.titles.length
  /-- A server does not run once it is given up. -/
  vacant : ∀ (s : ServerId) t, e.tenants[s]? = some t → t.dropped = true → t.handle = none
  apart : ∀ (s s' : ServerId) t t' a, e.tenants[s]? = some t → e.tenants[s']? = some t' →
    t.handle = some a → t'.handle = some a → s = s'
  /-- A server was started with the table of its router, and is stopped or still runs. -/
  started : ∀ a port table, .serverStarted a port table ∈ e.custody →
    a < e.next ∧ ∃ (s : ServerId) (t : Tenant), e.tenants[s]? = some t ∧
      table = e.titles[t.router]? ∧ (t.handle = some a ∨ .serverStopped a ∈ e.custody)
  running : ∀ (s : ServerId) t a, e.tenants[s]? = some t → t.handle = some a →
    (∃ port table, .serverStarted a port table ∈ e.custody) ∧ .serverStopped a ∉ e.custody

/-- An estate in good order. -/
structure Kept (e : Estate) : Prop extends Lodged e where
  order : Call.InOrder e.custody
  even : e.holders.length = e.titles.length
  distinct : e.titles.Nodup
  fresh : ∀ a ∈ e.titles, a < e.next
  /-- A table was created for a router, and is freed if and only if no one owns the router. -/
  created : ∀ a, .tableCreated a ∈ e.custody ↔ a ∈ e.titles
  freed : ∀ (r : RouterId) a, e.titles[r]? = some a → (.tableFreed a ∈ e.custody ↔ ¬ e.Owned r)
  single : e.tables.Nodup
  tables : ∀ a, a ∈ e.tables ↔ ∃ r : RouterId, e.titles[r]? = some a ∧ e.Owned r

/-! ### Owners -/

theorem Owned.lt (h : e.Kept) (howned : e.Owned r) : r < e.titles.length := by
  rcases howned with ⟨n, hn⟩ | ⟨s, t, ht, _, rfl⟩
  · rw [← h.even]
    exact (List.getElem?_eq_some_iff.mp hn).1
  · exact h.rooted s t ht

theorem owned_congr (hholders : e'.holders = e.holders)
    (htenants : Evolves (fun t t' => t'.router = t.router ∧ t'.dropped = t.dropped)
      (fun _ => False) e.tenants e'.tenants) (r : RouterId) : e'.Owned r ↔ e.Owned r := by
  unfold Owned
  rw [hholders]
  refine or_congr_right ⟨?_, ?_⟩
  · rintro ⟨s, t, ht, hkept, rfl⟩
    rcases htenants.new ht with ⟨t', ht', hrouter, hdropped⟩ | hnone
    · exact ⟨s, t', ht', hdropped ▸ hkept, hrouter.symm⟩
    · exact hnone.elim
  · rintro ⟨s, t, ht, hkept, rfl⟩
    obtain ⟨t', ht', hrouter, hdropped⟩ := htenants.old ht
    exact ⟨s, t', ht', hdropped.trans hkept, hrouter⟩

/-- A server that stays with its router and keeps its handle. It is given up only without one. -/
def Stays (t t' : Tenant) : Prop :=
  t'.router = t.router ∧ t'.handle = t.handle ∧ (t'.dropped = t.dropped ∨ t.handle = none)

theorem Stays.refl (t : Tenant) : Stays t t := ⟨rfl, rfl, .inl rfl⟩

/-- What starts and stops no server leaves the servers lodged. -/
theorem Lodged.keep (h : e.Lodged)
    (htitles : ∀ r < e.titles.length, e'.titles[r]? = e.titles[r]?) (hnext : e.next ≤ e'.next)
    (hstarted : ∀ a port table,
      .serverStarted a port table ∈ e'.custody ↔ .serverStarted a port table ∈ e.custody)
    (hstopped : ∀ a, .serverStopped a ∈ e'.custody ↔ .serverStopped a ∈ e.custody)
    (htenants : Evolves Stays (fun t => t.router < e.titles.length ∧ t.handle = none)
      e.tenants e'.tenants) : e'.Lodged where
  rooted s t ht := by
    have hroom : ∀ {r}, r < e.titles.length → r < e'.titles.length := by
      intro r hr
      have hsame := htitles r hr
      rw [List.getElem?_eq_getElem hr] at hsame
      exact (List.getElem?_eq_some_iff.mp hsame).1
    rcases htenants.new ht with ⟨t', ht', hrouter, _⟩ | ⟨hnew, _⟩
    · rw [hrouter]
      exact hroom (h.rooted s t' ht')
    · exact hroom hnew
  vacant s t ht hdropped := by
    rcases htenants.new ht with ⟨t', ht', _, hhandle, hsame | hidle⟩ | ⟨_, hidle⟩
    · rw [hhandle]
      exact h.vacant s t' ht' (hsame.symm.trans hdropped)
    · rw [hhandle, hidle]
    · exact hidle
  apart s s' t t' a ht ht' ha ha' := by
    rcases htenants.new ht with ⟨u, hu, _, hhandle, _⟩ | ⟨_, hidle⟩
    · rcases htenants.new ht' with ⟨u', hu', _, hhandle', _⟩ | ⟨_, hidle⟩
      · exact h.apart s s' u u' a hu hu' (hhandle ▸ ha) (hhandle' ▸ ha')
      · cases hidle.symm.trans ha'
    · cases hidle.symm.trans ha
  started a port table hcall := by
    obtain ⟨hlt, s, t, ht, htable, hends⟩ :=
      h.started a port table ((hstarted a port table).mp hcall)
    obtain ⟨t', ht', hrouter, hhandle, _⟩ := htenants.old ht
    refine ⟨Nat.lt_of_lt_of_le hlt hnext, s, t', ht', ?_, ?_⟩
    · rw [htable, hrouter, htitles _ (h.rooted s t ht)]
    · rw [hhandle, hstopped]
      exact hends
  running s t a ht ha := by
    rcases htenants.new ht with ⟨t', ht', _, hhandle, _⟩ | ⟨_, hidle⟩
    · obtain ⟨⟨port, table, hcall⟩, hnot⟩ := h.running s t' a ht' (hhandle ▸ ha)
      refine ⟨⟨port, table, (hstarted a port table).mpr hcall⟩, fun hcall => ?_⟩
      exact hnot ((hstopped a).mp hcall)
    · cases hidle.symm.trans ha

/-- What leaves the tables and who owns them, and starts and stops no server. -/
theorem Kept.keep (h : e.Kept) (htitles : e'.titles = e.titles) (htables : e'.tables = e.tables)
    (hcustody : e'.custody = e.custody) (hnext : e.next ≤ e'.next)
    (hholders : e'.holders.length = e.holders.length)
    (htenants : Evolves Stays (fun t => t.router < e.titles.length ∧ t.handle = none)
      e.tenants e'.tenants)
    (howned : ∀ r : RouterId, e'.Owned r ↔ e.Owned r) : e'.Kept where
  toLodged := h.toLodged.keep (fun r _ => by rw [htitles]) hnext
    (fun a port table => by rw [hcustody])
    (fun a => by rw [hcustody]) htenants
  order := by
    rw [hcustody]
    exact h.order
  even := by rw [hholders, h.even, htitles]
  distinct := by
    rw [htitles]
    exact h.distinct
  fresh a ha := Nat.lt_of_lt_of_le (h.fresh a (htitles ▸ ha)) hnext
  created a := by
    rw [hcustody, htitles]
    exact h.created a
  freed r a ha := by
    rw [hcustody, howned]
    exact h.freed r a (htitles ▸ ha)
  single := by
    rw [htables]
    exact h.single
  tables a := by
    rw [htables, htitles, h.tables]
    exact exists_congr fun r => and_congr_right fun _ => (howned r).symm

theorem tenants_refl {fresh : Tenant → Prop} (l : List Tenant) : Evolves Stays fresh l l :=
  .refl Stays.refl l

namespace GivesUp

theorem owned (h : GivesUp r e e') : e.Owned r := by
  cases h with
  | holder hholders => exact .inl ⟨_, hholders⟩
  | tenant htenant hrouter hkept => exact .inr ⟨_, _, htenant, hkept, hrouter⟩

/-- All that is still the same when one owner has given a router up. -/
theorem same (h : GivesUp r e e') : e'.titles = e.titles ∧ e'.tables = e.tables ∧
    e'.custody = e.custody ∧ e'.next = e.next ∧ e'.holders.length = e.holders.length := by
  cases h with
  | holder => exact ⟨rfl, rfl, rfl, rfl, List.length_set ..⟩
  | tenant => exact ⟨rfl, rfl, rfl, rfl, rfl⟩

theorem tenants {fresh : Tenant → Prop} (h : GivesUp r e e') :
    Evolves Stays fresh e.tenants e'.tenants := by
  cases h with
  | holder => exact tenants_refl _
  | tenant htenant _ _ hidle => exact Evolves.set Stays.refl htenant ⟨rfl, rfl, .inr hidle⟩

theorem owned_iff (h : GivesUp r e e') {r' : RouterId} (hne : r ≠ r') :
    e'.Owned r' ↔ e.Owned r' := by
  cases h with
  | holder =>
    unfold Owned
    rw [List.getElem?_set_ne hne]
  | @tenant s t htenant hrouter hkept hidle =>
    refine or_congr_right ⟨?_, ?_⟩
    · rintro ⟨s', t', ht', hkept', rfl⟩
      rcases getElem?_set_cases ht' with ⟨_, rfl⟩ | ⟨_, ht'⟩
      · cases hkept'
      · exact ⟨s', t', ht', hkept', rfl⟩
    · rintro ⟨s', t', ht', hkept', rfl⟩
      have hother : s ≠ s' := by
        rintro rfl
        cases htenant.symm.trans ht'
        exact hne hrouter.symm
      exact ⟨s', t', by rw [List.getElem?_set_ne hother, ht'], hkept', rfl⟩

end GivesUp

/-! ### One step -/

theorem Kept.founds (h : e.Kept) {next : Address} (hnext : e.next < next) :
    Kept { e with
      titles := e.titles ++ [e.next]
      holders := e.holders ++ [1]
      tables := e.next :: e.tables
      custody := .tableCreated e.next :: e.custody
      next } := by
  have hnew : e.next ∉ e.titles := fun hmem => Nat.lt_irrefl _ (h.fresh _ hmem)
  have hfreed : ∀ {a : Address}, .tableFreed a ∈ e.custody → a ∈ e.titles := fun hfreed =>
    (h.created _).mp (h.order.created_of_freed hfreed)
  have howned : ∀ r : RouterId, Owned { e with
      titles := e.titles ++ [e.next]
      holders := e.holders ++ [1]
      tables := e.next :: e.tables
      custody := .tableCreated e.next :: e.custody
      next } r ↔ e.Owned r ∨ r = e.titles.length := by
    intro r
    rw [← h.even]
    constructor
    · rintro (⟨n, hn⟩ | hserver)
      · exact (getElem?_concat_cases hn).imp (fun hold => .inl ⟨n, hold⟩) (·.1)
      · exact .inl (.inr hserver)
    · rintro ((⟨n, hn⟩ | hserver) | rfl)
      · exact .inl ⟨n, by
          rw [List.getElem?_append_left (List.getElem?_eq_some_iff.mp hn).1, hn]⟩
      · exact .inr hserver
      · exact .inl ⟨0, List.getElem?_concat_length⟩
  refine ⟨h.toLodged.keep ?_ (Nat.le_of_lt hnext) ?_ ?_ (tenants_refl _),
    ⟨fun hcreated => hnew ((h.created _).mp hcreated), h.order⟩, ?_, ?_, ?_, ?_, ?_, ?_, ?_⟩
  · intro r hr
    exact List.getElem?_append_left hr
  · intro a port table
    exact ⟨fun hcall => by simpa using hcall, List.mem_cons_of_mem _⟩
  · intro a
    exact ⟨fun hcall => by simpa using hcall, List.mem_cons_of_mem _⟩
  · simp [h.even]
  · refine List.nodup_append.mpr ⟨h.distinct, List.nodup_singleton _, ?_⟩
    rintro a ha _ hb rfl
    exact hnew (List.mem_singleton.mp hb ▸ ha)
  · intro a ha
    rcases List.mem_append.mp ha with ha | ha
    · exact Nat.lt_trans (h.fresh a ha) hnext
    · rw [List.mem_singleton.mp ha]
      exact hnext
  · intro a
    rw [List.mem_cons, Call.tableCreated.injEq, h.created, List.mem_append, List.mem_singleton]
    exact or_comm
  · intro r a ha
    rw [List.mem_cons, or_iff_right (by simp), howned]
    rcases getElem?_concat_cases ha with ha | ⟨rfl, rfl⟩
    · have hlt := (List.getElem?_eq_some_iff.mp ha).1
      rw [h.freed r a ha, or_iff_left (Nat.ne_of_lt hlt)]
    · exact iff_of_false (fun hmem => hnew (hfreed hmem)) (fun hnone => hnone (.inr rfl))
  · refine List.nodup_cons.mpr ⟨?_, h.single⟩
    intro hmem
    obtain ⟨r, hr, _⟩ := (h.tables _).mp hmem
    exact hnew (List.mem_of_getElem? hr)
  · intro a
    rw [List.mem_cons, h.tables]
    constructor
    · rintro (rfl | ⟨r, hr, hr'⟩)
      · exact ⟨_, List.getElem?_concat_length, (howned _).mpr (.inr rfl)⟩
      · refine ⟨r, ?_, (howned r).mpr (.inl hr')⟩
        rw [List.getElem?_append_left (List.getElem?_eq_some_iff.mp hr).1, hr]
    · rintro ⟨r, hr, hr'⟩
      rcases getElem?_concat_cases hr with hr | ⟨_, rfl⟩
      · have hlt := (List.getElem?_eq_some_iff.mp hr).1
        exact .inr ⟨r, hr, ((howned r).mp hr').resolve_right (Nat.ne_of_lt hlt)⟩
      · exact .inl rfl

/-- A server that starts or stops owns its router as before. -/
theorem owned_set_handle {s : ServerId} {t : Tenant} (htenant : e.tenants[s]? = some t)
    {handle : Option Address} (hholders : e'.holders = e.holders)
    (htenants : e'.tenants = e.tenants.set s { t with handle }) (r : RouterId) :
    e'.Owned r ↔ e.Owned r := by
  refine owned_congr hholders ?_ r
  rw [htenants]
  exact .set (fun _ => ⟨rfl, rfl⟩) htenant ⟨rfl, rfl⟩

/-- A call about a server leaves what is said of tables. -/
theorem Kept.serve (h : e.Kept) (hlodged : e'.Lodged) (call : Call)
    (htimely : call.Timely e.custody)
    (hcustody : e'.custody = call :: e.custody) (hcreated : ∀ a, .tableCreated a ≠ call)
    (hfreed : ∀ a, .tableFreed a ≠ call) (htitles : e'.titles = e.titles)
    (hholders : e'.holders = e.holders) (htables : e'.tables = e.tables) (hnext : e.next ≤ e'.next)
    (howned : ∀ r : RouterId, e'.Owned r ↔ e.Owned r) : e'.Kept where
  toLodged := hlodged
  order := by
    rw [hcustody]
    exact ⟨htimely, h.order⟩
  even := by rw [hholders, htitles, h.even]
  distinct := by
    rw [htitles]
    exact h.distinct
  fresh a ha := Nat.lt_of_lt_of_le (h.fresh a (htitles ▸ ha)) hnext
  created a := by
    rw [hcustody, List.mem_cons, or_iff_right (hcreated a), htitles]
    exact h.created a
  freed r a ha := by
    rw [hcustody, List.mem_cons, or_iff_right (hfreed a), howned]
    exact h.freed r a (htitles ▸ ha)
  single := by
    rw [htables]
    exact h.single
  tables a := by
    rw [htables, htitles, h.tables]
    exact exists_congr fun r => and_congr_right fun _ => (howned r).symm

theorem Kept.starts (h : e.Kept) {s : ServerId} {t : Tenant} {next : Address} (port : UInt16)
    (htenant : e.tenants[s]? = some t) (hkept : t.dropped = false) (hidle : t.handle = none)
    (hnext : e.next < next) :
    Kept { e with
      tenants := e.tenants.set s { t with handle := some e.next }
      custody := .serverStarted e.next port e.titles[t.router]? :: e.custody
      next } := by
  have hroom := (List.getElem?_eq_some_iff.mp htenant).1
  have hnew : ∀ {port table}, .serverStarted e.next port table ∉ e.custody := fun hstarted =>
    Nat.lt_irrefl _ (h.started _ _ _ hstarted).1
  have hruns : ∀ {s' : ServerId} {t'}, e.tenants[s']? = some t' → t'.handle ≠ some e.next := by
    intro s' t' ht' hhandle
    obtain ⟨⟨port', table, hstarted⟩, _⟩ := h.running s' t' _ ht' hhandle
    exact hnew hstarted
  refine h.serve ⟨?_, ?_, ?_, ?_, ?_⟩ (.serverStarted e.next port e.titles[t.router]?) ?_ rfl
    (fun _ => by simp) (fun _ => by simp) rfl rfl rfl (Nat.le_of_lt hnext)
    (owned_set_handle htenant rfl rfl)
  · intro s' t' ht'
    rcases getElem?_set_cases ht' with ⟨rfl, rfl⟩ | ⟨_, ht'⟩
    · exact h.rooted s t htenant
    · exact h.rooted s' t' ht'
  · intro s' t' ht' hdropped
    rcases getElem?_set_cases ht' with ⟨rfl, rfl⟩ | ⟨_, ht'⟩
    · cases hkept.symm.trans hdropped
    · exact h.vacant s' t' ht' hdropped
  · intro s₁ s₂ t₁ t₂ a ht₁ ht₂ ha₁ ha₂
    rcases getElem?_set_cases ht₁ with ⟨rfl, rfl⟩ | ⟨_, ht₁⟩
    · rcases getElem?_set_cases ht₂ with ⟨rfl, rfl⟩ | ⟨_, ht₂⟩
      · rfl
      · cases ha₁
        exact absurd ha₂ (hruns ht₂)
    · rcases getElem?_set_cases ht₂ with ⟨rfl, rfl⟩ | ⟨_, ht₂⟩
      · cases ha₂
        exact absurd ha₁ (hruns ht₁)
      · exact h.apart s₁ s₂ t₁ t₂ a ht₁ ht₂ ha₁ ha₂
  · intro a port' table hstarted
    rcases List.mem_cons.mp hstarted with hsame | hstarted
    · cases hsame
      exact ⟨hnext, s, _, List.getElem?_set_self hroom, rfl, .inl rfl⟩
    · obtain ⟨hlt, s', t', ht', htable, hends⟩ := h.started a port' table hstarted
      refine ⟨Nat.lt_trans hlt hnext, s', ?_⟩
      by_cases hs : s = s'
      · subst hs
        cases htenant.symm.trans ht'
        refine ⟨_, List.getElem?_set_self hroom, htable, .inr (List.mem_cons_of_mem _ ?_)⟩
        exact hends.resolve_left fun hhandle => by cases hidle.symm.trans hhandle
      · exact ⟨t', by rw [List.getElem?_set_ne hs, ht'], htable,
          hends.imp_right (List.mem_cons_of_mem _)⟩
  · intro s' t' a ht' ha
    rcases getElem?_set_cases ht' with ⟨rfl, rfl⟩ | ⟨_, ht'⟩
    · cases ha
      refine ⟨⟨_, _, List.mem_cons_self⟩, ?_⟩
      rw [List.mem_cons, or_iff_right (by simp)]
      intro hstopped
      obtain ⟨_, _, hstarted⟩ := h.order.started_of_stopped hstopped
      exact hnew hstarted
    · obtain ⟨⟨port', table, hstarted⟩, hstopped⟩ := h.running s' t' a ht' ha
      exact ⟨⟨port', table, List.mem_cons_of_mem _ hstarted⟩, by simpa using hstopped⟩
  · refine ⟨fun _ _ => hnew, ?_⟩
    intro a ha
    refine ⟨(h.created a).mpr (List.mem_of_getElem? ha), ?_⟩
    rw [h.freed _ a ha, not_not]
    exact .inr ⟨s, t, htenant, hkept, rfl⟩

theorem Kept.stops (h : e.Kept) {s : ServerId} {t : Tenant} {a : Address}
    (htenant : e.tenants[s]? = some t) (hruns : t.handle = some a) :
    Kept { e with
      tenants := e.tenants.set s { t with handle := none }
      custody := .serverStopped a :: e.custody } := by
  have hroom := (List.getElem?_eq_some_iff.mp htenant).1
  refine h.serve ⟨?_, ?_, ?_, ?_, ?_⟩ (.serverStopped a) (h.running s t a htenant hruns) rfl
    (fun _ => by simp) (fun _ => by simp) rfl rfl rfl (Nat.le_refl _)
    (owned_set_handle htenant rfl rfl)
  · intro s' t' ht'
    rcases getElem?_set_cases ht' with ⟨rfl, rfl⟩ | ⟨_, ht'⟩
    · exact h.rooted s t htenant
    · exact h.rooted s' t' ht'
  · intro s' t' ht' hdropped
    rcases getElem?_set_cases ht' with ⟨rfl, rfl⟩ | ⟨_, ht'⟩
    · rfl
    · exact h.vacant s' t' ht' hdropped
  · intro s₁ s₂ t₁ t₂ a' ht₁ ht₂ ha₁ ha₂
    rcases getElem?_set_cases ht₁ with ⟨_, rfl⟩ | ⟨_, ht₁⟩
    · cases ha₁
    · rcases getElem?_set_cases ht₂ with ⟨_, rfl⟩ | ⟨_, ht₂⟩
      · cases ha₂
      · exact h.apart s₁ s₂ t₁ t₂ a' ht₁ ht₂ ha₁ ha₂
  · intro a' port table hstarted
    rw [List.mem_cons, or_iff_right (by simp)] at hstarted
    obtain ⟨hlt, s', t', ht', htable, hends⟩ := h.started a' port table hstarted
    refine ⟨hlt, s', ?_⟩
    by_cases hs : s = s'
    · subst hs
      cases htenant.symm.trans ht'
      refine ⟨_, List.getElem?_set_self hroom, htable, .inr ?_⟩
      rcases hends with hhandle | hstopped
      · cases hruns.symm.trans hhandle
        exact List.mem_cons_self
      · exact List.mem_cons_of_mem _ hstopped
    · exact ⟨t', by rw [List.getElem?_set_ne hs, ht'], htable,
        hends.imp_right (List.mem_cons_of_mem _)⟩
  · intro s' t' a' ht' ha
    rcases getElem?_set_cases ht' with ⟨_, rfl⟩ | ⟨hs, hother⟩
    · cases ha
    · obtain ⟨⟨port, table, hstarted⟩, hstopped⟩ := h.running s' t' a' hother ha
      refine ⟨⟨port, table, List.mem_cons_of_mem _ hstarted⟩, ?_⟩
      rw [List.mem_cons, Call.serverStopped.injEq]
      rintro (rfl | hmem)
      · exact hs (h.apart s s' t t' _ htenant hother hruns ha)
      · exact hstopped hmem

theorem Kept.frees (h : e.Kept) {a : Address} (hgives : GivesUp r e e') (hunowned : ¬ e'.Owned r)
    (htitle : e.titles[r]? = some a) :
    Kept { e' with
      tables := e'.tables.erase a
      custody := .tableFreed a :: e'.custody } := by
  obtain ⟨htitles, htables, hcustody, hnext, hholders⟩ := hgives.same
  have hroom := (List.getElem?_eq_some_iff.mp htitle).1
  have hindex : ∀ {r' : RouterId}, e.titles[r']? = some a → r = r' := fun hr' =>
    (List.getElem?_inj hroom h.distinct).mp (htitle.trans hr'.symm)
  refine ⟨h.toLodged.keep ?_ (Nat.le_of_eq hnext.symm) ?_ ?_ hgives.tenants, ⟨?_, ?_⟩, ?_, ?_, ?_, ?_,
    ?_, ?_, ?_⟩
  · intro r' _
    rw [htitles]
  · intro a' port table
    rw [hcustody, List.mem_cons, or_iff_right (by simp)]
  · intro a'
    rw [hcustody, List.mem_cons, or_iff_right (by simp)]
  · rw [hcustody]
    refine ⟨(h.created a).mpr (List.mem_of_getElem? htitle), ?_, ?_⟩
    · rw [h.freed r a htitle, not_not]
      exact hgives.owned
    · intro a' port hstarted
      obtain ⟨_, s, t, ht, htable, hends⟩ := h.started a' port _ hstarted
      refine hends.resolve_left fun hhandle => hunowned ?_
      -- a server that runs is not given up, so its router has an owner
      have htenants : Evolves Stays (fun _ => False) e.tenants e'.tenants := hgives.tenants
      obtain ⟨t', ht', hrouter, hhandle', hdropped⟩ := htenants.old ht
      refine .inr ⟨s, t', ht', ?_, hrouter.trans (hindex htable.symm).symm⟩
      rw [hdropped.resolve_right fun hnone => by cases hnone.symm.trans hhandle]
      refine Bool.eq_false_iff.mpr fun hgone => ?_
      cases (h.vacant s t ht hgone).symm.trans hhandle
  · rw [hcustody]
    exact h.order
  · exact hholders.trans (h.even.trans (congrArg List.length htitles.symm))
  · exact htitles ▸ h.distinct
  · intro a' ha'
    rw [hnext]
    exact h.fresh a' (htitles ▸ ha')
  · intro a'
    rw [hcustody, htitles, List.mem_cons, or_iff_right (by simp)]
    exact h.created a'
  · intro r' a' ha'
    rw [htitles] at ha'
    rw [hcustody, List.mem_cons, Call.tableFreed.injEq]
    by_cases hr : r = r'
    · subst hr
      exact iff_of_true (.inl (Option.some.inj (ha'.symm.trans htitle))) hunowned
    · have hother : a' ≠ a := fun hsame => hr (hindex (hsame ▸ ha'))
      rw [or_iff_right hother, h.freed r' a' ha']
      exact not_congr (hgives.owned_iff hr).symm
  · exact (htables ▸ h.single).erase a
  · intro a'
    rw [htables, h.single.mem_erase_iff, h.tables, htitles]
    constructor
    · rintro ⟨hother, r', hr', howned⟩
      have hr : r ≠ r' := by
        rintro rfl
        exact hother (Option.some.inj (hr'.symm.trans htitle))
      exact ⟨r', hr', (hgives.owned_iff hr).mpr howned⟩
    · rintro ⟨r', hr', howned⟩
      have hr : r ≠ r' := by
        rintro rfl
        exact hunowned howned
      exact ⟨fun hsame => hr (hindex (hsame ▸ hr')), r', hr', (hgives.owned_iff hr).mp howned⟩

theorem Kept.step (h : e.Kept) (hstep : Step e e') : e'.Kept := by
  cases hstep with
  | passes hnext => exact h.keep rfl rfl rfl hnext rfl (tenants_refl _) fun _ => .rfl
  | founds hnext => exact h.founds hnext
  | @shares r n howned hholders =>
    refine h.keep rfl rfl rfl (Nat.le_refl _) (List.length_set ..) (tenants_refl _) fun r' => ?_
    have hroom := (List.getElem?_eq_some_iff.mp hholders).1
    by_cases hr : r = r'
    · subst hr
      exact iff_of_true (.inl ⟨n, List.getElem?_set_self hroom⟩) howned
    · unfold Owned
      rw [List.getElem?_set_ne hr]
  | @settles r howned =>
    refine h.keep rfl rfl rfl (Nat.le_refl _) rfl (.concat Stays.refl ⟨howned.lt h, rfl⟩)
      fun r' => ?_
    constructor
    · rintro (hholder | ⟨s, t, ht, hkept, rfl⟩)
      · exact .inl hholder
      · rcases getElem?_concat_cases ht with ht | ⟨_, rfl⟩
        · exact .inr ⟨s, t, ht, hkept, rfl⟩
        · exact howned
    · refine Or.imp_right ?_
      rintro ⟨s, t, ht, hkept⟩
      exact ⟨s, t, by rw [List.getElem?_append_left (List.getElem?_eq_some_iff.mp ht).1, ht], hkept⟩
  | starts port htenant hkept hidle hnext => exact h.starts port htenant hkept hidle hnext
  | stops htenant hruns => exact h.stops htenant hruns
  | @loosens r _ hgives howned =>
    obtain ⟨htitles, htables, hcustody, hnext, hholders⟩ := hgives.same
    refine h.keep htitles htables hcustody (Nat.le_of_eq hnext.symm) hholders hgives.tenants ?_
    intro r'
    rcases eq_or_ne r r' with rfl | hne
    · exact iff_of_true howned hgives.owned
    · exact hgives.owned_iff hne
  | frees hgives hunowned htitle => exact h.frees hgives hunowned htitle

theorem Kept.steps (h : e.Kept) (hsteps : Steps e e') : e'.Kept := by
  induction hsteps with
  | refl => exact h
  | step hstep _ ih => exact ih (h.step hstep)

/-- What has been called stays in the journal. -/
theorem Step.mem_custody (h : Step e e') {call : Call} (hcall : call ∈ e.custody) :
    call ∈ e'.custody := by
  cases h with
  | passes | shares | settles => exact hcall
  | founds | starts | stops => exact List.mem_cons_of_mem _ hcall
  | loosens hgives => exact hgives.same.2.2.1 ▸ hcall
  | frees hgives => exact List.mem_cons_of_mem _ (hgives.same.2.2.1 ▸ hcall)

theorem Steps.mem_custody (h : Steps e e') {call : Call} (hcall : call ∈ e.custody) :
    call ∈ e'.custody := by
  induction h with
  | refl => exact hcall
  | step hstep _ ih => exact ih (hstep.mem_custody hcall)

end Estate
end RequestBridge
