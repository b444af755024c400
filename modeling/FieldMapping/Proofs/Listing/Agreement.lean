import FieldMapping.Directory.People
import FieldMapping.Listing.Factory
import FieldMapping.Proofs.Verdict
import FieldMapping.Storage.Query

/-! A request is checked when its arguments are built and once more when they become
a query. The two checks are written apart and staged differently, yet they stop at
the same column for the same cause, so what a scoped factory hands out can always be
asked of storage. -/

namespace FieldMapping

inductive Terms.Asks (t : Terms) : Option Filter → Prop
  | absent (out : t.filters = none) : t.Asks none
  | null (empty : t.filters = some .null) : t.Asks none
  | read {v : Value} {f : Filter} (given : t.filters = some v) (ok : Filter.ofValue v = .ok f) :
    t.Asks (some f)

namespace Terms
variable {ρ : Type}

theorem asks_of_readFilter {scope : Option (Layout ρ)} {t : Terms} {f : Option Filter}
    (read : readFilter scope t.filters = .ok f) : t.Asks f := by
  unfold readFilter at read
  split at read
  · next out =>
    cases read
    exact .absent out
  · next empty =>
    cases read
    exact .null empty
  · next v _ given =>
    obtain ⟨g, hv, checked⟩ := bind_eq_ok_iff.1 read
    have same : some g = f := by
      cases scope with
      | none => simpa using checked
      | some l =>
        obtain ⟨_, _, made⟩ := map_eq_ok_iff.1 checked
        exact made
    rw [← same]
    exact .read given hv

theorem asks_of_arguments {scope : Option (Layout ρ)} {t : Terms} {a : Arguments}
    (built : t.arguments scope = .ok a) : t.Asks a.filter ∧ a.sorting = t.sorting := by
  obtain ⟨f, read, rest⟩ := bind_eq_ok_iff.1 built
  have same : Arguments.mk f t.sorting = a := by
    split at rest
    · obtain ⟨_, _, made⟩ := map_eq_ok_iff.1 rest
      exact made
    · simpa using rest
  rw [← same]
  exact ⟨asks_of_readFilter read, rfl⟩

end Terms

namespace Layout
variable {ρ : Type}

inductive SameCause (l : Layout ρ) : Filter.Error → QueryError → Prop
  | noStorageName {column property : String} {field : Field ρ}
    (found : l.lookup column = some (property, field)) :
    l.SameCause (.impossible column .noStorageName)
      (.extended ⟨l.entity, property, field.describe⟩)
  | filter {e : Filter.Error} (other : ∀ column, e ≠ .impossible column .noStorageName) :
    l.SameCause e (.filter e)

theorem agree_requireStorageName (l : Layout ρ) {c : String × Filter.Column} {property : String}
    {field : Field ρ} (found : l.lookup c.1 = some (property, field)) :
    Agree l.SameCause (l.requireStorageName c.1) (l.partOf c) := by
  simp only [requireStorageName, partOf, columnOf, found]
  cases field.target with
  | column name => exact .pass _ _
  | extended name transform => exact .fail (.noStorageName found)

theorem agree_checkFilter (l : Layout ρ) (f : Filter) :
    Agree l.SameCause (l.checkFilter f) (l.storageFilter f) := by
  have admitted : Agree l.SameCause (l.acceptFilter f) ((l.acceptFilter f).mapError .filter) :=
    .mapError fun e refused => .filter (acceptFilter_error_ne refused)
  refine admitted.bind fun _ _ accepted _ => ?_
  have each : ∀ c ∈ f.columns, Agree l.SameCause (l.requireStorageName c.1) (l.partOf c) := by
    intro c hc
    obtain ⟨property, field, found, -⟩ := acceptFilter_eq_ok_iff.1 accepted c hc
    exact l.agree_requireStorageName found
  rw [bind_ok_eq_map]
  exact ((Agree.traverse each).map_left _).map_right _

theorem agree_checkSortKey (l : Layout ρ) (s : SortKey) :
    Agree l.SameCause (l.checkSortKey s) (l.storageOrder s) := by
  unfold checkSortKey storageOrder
  cases found : l.lookup s.column with
  | none => exact .fail (.filter (by simp))
  | some p =>
    obtain ⟨property, field⟩ := p
    by_cases isVirtual : field.origin.isVirtual = true
    · simp only [isVirtual, if_true]
      exact .fail (.filter (by simp))
    · simp only [isVirtual, columnOf]
      cases field.target with
      | column name => exact .pass _ _
      | extended name transform => exact .fail (.noStorageName found)

theorem agree_checkSorting (l : Layout ρ) (keys : List SortKey) :
    Agree l.SameCause (l.checkSorting keys) (l.storageSorting keys) :=
  (Agree.traverse fun s _ => l.agree_checkSortKey s).map_left _

theorem readFilter_of_asks (l : Layout ρ) {t : Terms} {f : Option Filter} (asks : t.Asks f) :
    Terms.readFilter (some l) t.filters = match f with
      | none => .ok none
      | some f => (l.checkFilter f).map fun _ => some f := by
  cases asks with
  | absent out =>
    rw [out]
    rfl
  | null empty =>
    rw [empty]
    rfl
  | @read v f given ok =>
    rw [given]
    cases v with
    | null => simp [Filter.ofValue] at ok
    | _ => simp only [Terms.readFilter, ok]; rfl

theorem agree_readFilter (l : Layout ρ) {t : Terms} {f : Option Filter} (asks : t.Asks f) :
    Agree l.SameCause (Terms.readFilter (some l) t.filters) (l.optionalFilter f) := by
  rw [l.readFilter_of_asks asks]
  cases f with
  | none => exact .pass _ _
  | some f => exact (l.agree_checkFilter f).map_left _

theorem agree_arguments (l : Layout ρ) {t : Terms} {f : Option Filter} (asks : t.Asks f) :
    Agree l.SameCause (t.arguments (some l)) (l.unboundedQuery ⟨f, t.sorting⟩) := by
  refine (l.agree_readFilter asks).bind fun _ _ _ _ => ?_
  rw [bind_ok_eq_map]
  cases t.sorting with
  | none => exact .pass _ _
  | some keys => exact ((l.agree_checkSorting keys).map_left _).map_right _

end Layout

namespace PagedFactory
variable {ρ : Type}

/-- What comes from a factory, with or without a request. -/
def HandsOut (x : PagedFactory ρ) (a : Listing) : Prop := a = x.fresh ∨ ∃ r, x.build r = .ok a

theorem build_of_window (x : PagedFactory ρ) {r : Request} {w : Window}
    (valid : x.pager.window r.startRow r.endRow = .ok w) :
    x.build r = (r.terms.arguments x.scope).map fun a => ⟨w, a⟩ := by
  rw [build, Request.listing, valid]
  exact bind_ok_eq_map _ _

theorem build_eq_ok_iff {x : PagedFactory ρ} {r : Request} {a : Listing} :
    x.build r = .ok a ↔ x.pager.window r.startRow r.endRow = .ok a.window ∧
      r.terms.arguments x.scope = .ok a.arguments := by
  simp only [build, Request.listing, bind_eq_ok_iff]
  constructor
  · rintro ⟨w, valid, b, passed, ⟨⟩⟩
    exact ⟨valid, passed⟩
  · rintro ⟨valid, passed⟩
    exact ⟨a.window, valid, a.arguments, passed, rfl⟩

theorem arguments_of_build {x : PagedFactory ρ} {r : Request} {a : Listing}
    (built : x.build r = .ok a) : r.terms.arguments x.scope = .ok a.arguments :=
  (build_eq_ok_iff.1 built).2

end PagedFactory

def OpenFactory.HandsOut {ρ : Type} (x : OpenFactory ρ) (a : Arguments) : Prop :=
  a = x.fresh ∨ ∃ t, x.build t = .ok a

namespace Layout
variable {ρ : Type}

theorem exists_unboundedQuery (l : Layout ρ) {t : Terms} {a : Arguments}
    (built : t.arguments (some l) = .ok a) : ∃ q, l.unboundedQuery a = .ok q := by
  obtain ⟨asks, sorting⟩ := Terms.asks_of_arguments built
  have agree := l.agree_arguments asks
  rw [← sorting] at agree
  exact agree.pass_iff.1 ⟨a, built⟩

theorem exists_query (l : Layout ρ) {a : Listing} (h : ∃ q, l.unboundedQuery a.arguments = .ok q) :
    ∃ q, l.query a = .ok q := by
  obtain ⟨q, hq⟩ := h
  exact ⟨_, by rw [query, hq]; rfl⟩

theorem build_agrees_with_query (l : Layout ρ) :
    (∀ (t : Terms) (f : Option Filter), t.Asks f →
      Agree l.SameCause ((OpenFactory.mk (some l)).build t)
        (l.unboundedQuery ⟨f, t.sorting⟩)) ∧
    (∀ (pager : Pager) (r : Request) (f : Option Filter) (w shown : Window), r.terms.Asks f →
      pager.window r.startRow r.endRow = .ok w →
      Agree l.SameCause ((PagedFactory.mk pager (some l)).build r)
        (l.query ⟨shown, ⟨f, r.terms.sorting⟩⟩)) ∧
    (∀ a, (OpenFactory.mk (some l)).HandsOut a → ∃ q, l.unboundedQuery a = .ok q) ∧
    (∀ (pager : Pager) (a : Listing), (PagedFactory.mk pager (some l)).HandsOut a →
      ∃ q, l.query a = .ok q) := by
  refine ⟨fun t f asks => l.agree_arguments asks, ?_, ?_, ?_⟩
  · intro pager r f w shown asks valid
    rw [PagedFactory.build_of_window _ valid]
    exact ((l.agree_arguments asks).map_left _).map_right _
  · rintro a (rfl | ⟨t, built⟩)
    · exact ⟨_, rfl⟩
    · exact l.exists_unboundedQuery built
  · rintro pager a (rfl | ⟨r, built⟩)
    · exact ⟨_, rfl⟩
    · exact l.exists_query (l.exists_unboundedQuery (PagedFactory.arguments_of_build built))

open Directory in
theorem build_agrees_with_query_for_people :
    let l : Layout StockRule := .ofFields "Person" Person.fields
    let node : Value := .object [("filterType", .string "text"), ("type", .string "blank")]
    let column : Filter.Column := .single ⟨.text, .blank, .none⟩
    let computed : Terms :=
      ⟨some (.object [("surname", node), ("fullName", node)]), some [⟨"badge", .ascending⟩]⟩
    let stored : Terms := ⟨some (.object [("surname", node)]), some [⟨"team", .descending⟩]⟩
    let asked : Filter := ⟨[("surname", column), ("fullName", column)]⟩
    let shown : Arguments := ⟨some ⟨[("surname", column)]⟩, some [⟨"team", .descending⟩]⟩
    let rows : Window := ⟨0, 5, by decide⟩
    let paged : PagedFactory StockRule := ⟨Pager.of {}, some l⟩
    let unpaged : OpenFactory StockRule := ⟨some l⟩
    computed.Asks (some asked) ∧ paged.pager.window none (some 5) = .ok rows ∧
    Agree l.SameCause (unpaged.build computed) (l.unboundedQuery ⟨some asked, computed.sorting⟩) ∧
    Agree l.SameCause (paged.build ⟨none, some 5, computed⟩)
      (l.query ⟨rows, ⟨some asked, computed.sorting⟩⟩) ∧
    unpaged.build stored = .ok shown ∧ (∃ q, l.unboundedQuery shown = .ok q) ∧
    paged.build ⟨none, some 5, stored⟩ = .ok ⟨rows, shown⟩ ∧ ∃ q, l.query ⟨rows, shown⟩ = .ok q := by
  intro l node column computed stored asked shown rows paged unpaged
  obtain ⟨openly, windowed, openlyOut, windowedOut⟩ := build_agrees_with_query l
  have asks : computed.Asks (some asked) := .read rfl rfl
  have valid : paged.pager.window none (some 5) = .ok rows := rfl
  have given : unpaged.build stored = .ok shown := rfl
  have listed : paged.build ⟨none, some 5, stored⟩ = .ok ⟨rows, shown⟩ := rfl
  exact ⟨asks, valid, openly computed _ asks,
    windowed paged.pager ⟨none, some 5, computed⟩ _ rows rows asks valid,
    given, openlyOut shown (.inr ⟨stored, given⟩),
    listed, windowedOut paged.pager ⟨rows, shown⟩ (.inr ⟨_, listed⟩)⟩

end Layout

end FieldMapping
