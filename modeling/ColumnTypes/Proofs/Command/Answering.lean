import ColumnTypes.Proofs.Command.Ending
import ColumnTypes.Proofs.Command.Loading
import ColumnTypes.Proofs.Command.Writing

/-!
# The steps of `resolve`

`resolve` loads its configuration, loads its catalog and answers (`resolve_eq`). Up to its answer it
only writes, and only on the error stream; the answer returns exactly if there is a column and its
type can be echoed (`returns_answer_iff`).
-/

namespace ColumnTypes.Command

open Command.Action

variable {s : Surroundings} {p q : Progress}

/-! ## Steps -/

/-- The catalog of a request. -/
def requestedCatalog (s : Surroundings) (r : ResolveRequest) (config : Option Config) :
    Action Catalog :=
  match r.catalogPath? config with
  | some path => requiredCatalog s .err path r.debug
  | none => pure Catalog.empty

/-- What `resolve` does once it has its catalog. -/
def answer (s : Surroundings) (r : ResolveRequest) (config : Option Config) (catalog : Catalog) :
    Action Unit := do
  configureLogging (r.settings config).debug
  match r.column with
  | .error report =>
    print s.width .err ("[red]Invalid column:[/red] " ++ report.text)
    fail "Declared type must not be empty"
  | .ok column =>
    log (catalog.logs (r.settings config) column)
    echo .out (catalog.goType (r.settings config) column).text

/-- `resolve` loads its configuration, loads its catalog and answers. -/
theorem resolve_eq (r : ResolveRequest) :
    resolve s r = optionalConfig s .err r.config r.debug >>= fun found =>
      requestedCatalog s r (found.map Prod.fst) >>= answer s r (found.map Prod.fst) := by
  unfold resolve requestedCatalog
  refine congrArg (optionalConfig s .err r.config r.debug >>= ·) (funext fun found => ?_)
  dsimp only
  cases r.catalogPath? (found.map Prod.fst) with
  | none => rfl
  | some path => rfl

/-! ## Runs -/

theorem isWriting_requestedCatalog {r : ResolveRequest} {config : Option Config} :
    IsWriting .err (requestedCatalog s r config) := by
  unfold requestedCatalog
  split
  · exact isWriting_requiredCatalog
  · exact .pure Catalog.empty

theorem isFrank_resolve {r : ResolveRequest} : (resolve s r).IsFrank := by
  rw [resolve_eq]
  refine isFrank_bind isWriting_optionalConfig.isFrank fun found => ?_
  refine isFrank_bind isWriting_requestedCatalog.isFrank fun catalog => ?_
  refine isFrank_bind isFrank_modify fun _ => ?_
  split
  · exact (IsWriting.bind isWriting_print fun _ => isWriting_fail).isFrank
  · exact isFrank_bind isFrank_modify fun _ => isWriting_echo.isFrank

/-- An answer is the type of the column, if no surrogate stands in it. -/
theorem returns_answer_iff {r : ResolveRequest} {config : Option Config} {catalog : Catalog}
    {u : Unit} :
    (answer s r config catalog).Returns p u q ↔ ∃ column, r.column = .ok column ∧
      Text.hasSurrogate (catalog.goType (r.settings config) column).text = false ∧
      q = { p with
        out := p.out ++ withoutControls ((catalog.goType (r.settings config) column).text ++ "\n")
        logs := p.logs ++ catalog.logs (r.settings config) column
        logging := p.logging.configure (r.settings config).debug } := by
  unfold answer
  cases r.column with
  | error report =>
      refine iff_of_false (fun h => ?_) (fun ⟨column, h, _⟩ => nomatch h)
      exact not_returns_bind (fun _ _ => not_returns_bind fun _ _ => not_returns_fail) h
  | ok column =>
      constructor
      · intro h
        obtain ⟨⟨⟩, p₁, hlogging, h⟩ := returns_bind_iff.1 h
        obtain ⟨⟨⟩, p₂, hlog, h⟩ := returns_bind_iff.1 h
        obtain rfl := returns_modify_iff.1 hlogging
        obtain rfl := returns_modify_iff.1 hlog
        obtain ⟨htext, rfl⟩ := returns_echo_out_iff.1 h
        exact ⟨column, rfl, htext, rfl⟩
      · rintro ⟨column', heq, htext, rfl⟩
        obtain rfl := Except.ok.inj heq
        exact returns_bind_iff.2 ⟨(), _, returns_modify_iff.2 rfl, returns_bind_iff.2
          ⟨(), _, returns_modify_iff.2 rfl, returns_echo_out_iff.2 ⟨htext, rfl⟩⟩⟩

/-- A surrogate in the type breaks the answer off, and nothing is echoed. -/
theorem ends_answer {r : ResolveRequest} {config : Option Config} {catalog : Catalog}
    {column : Column} (hcolumn : r.column = .ok column)
    (htext : Text.hasSurrogate (catalog.goType (r.settings config) column).text = true) :
    ∃ q, (answer s r config catalog).Ends p (.crash .unencodable) q ∧ q.out = p.out := by
  unfold answer
  rw [hcolumn]
  exact ⟨_, ends_bind_of_returns (x := ()) (returns_modify_iff.2 rfl)
    (ends_bind_of_returns (x := ()) (returns_modify_iff.2 rfl) (ends_echo_out htext)), rfl⟩

end ColumnTypes.Command
