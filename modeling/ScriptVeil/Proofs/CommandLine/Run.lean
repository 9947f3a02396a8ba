import ScriptVeil.CommandLine.Run
import ScriptVeil.Proofs.CommandLine.Files

namespace ScriptVeil.CommandLine

variable {σ ι : Type}

/-- Whether the input file holds a text that is obfuscated to `result`. -/
def Produces (v : View σ ι) (entropy : UInt64) (o : Options) (attempts : Nat) (s : σ)
    (result : Text) : Prop :=
  ∃ i data input, v.locate s o.input = some i ∧ v.content s i = some data
    ∧ textOf data = .ok input
    ∧ (obfuscate o.strategy (o.seed.getD entropy) input attempts).result = .ok result

/-- Whether a result has been put where it belongs: on the output stream with a line end behind it,
or in the file that was asked for and in no other. -/
def Delivered (v : View σ ι) (output : Option Text) (result : Text) (s : σ) (out : Output)
    (s' : σ) : Prop :=
  match output with
  | none => out.stdout = result ++ ['\n'] ∧ v.content s' = v.content s
  | some path => out.stdout = [] ∧ ∃ i, v.locate s' path = some i
    ∧ v.content s' i = some (bytesOf result) ∧ ∀ j ≠ i, v.content s' j = v.content s j

def deliveryTo (output : Option Text) (result : Text) : Delivery :=
  match output with
  | none => .print result
  | some path => .save path result

theorem Delivered.of_content {v : View σ ι} {output : Option Text} {result : Text} {s s₁ s' : σ}
    {out : Output} (h : Delivered v output result s₁ out s') (hc : v.content s₁ = v.content s) :
    Delivered v output result s out.uncoloured s' := by
  cases output with
  | none => exact ⟨h.1, h.2.trans hc⟩
  | some path =>
    obtain ⟨hstdout, i, hlocate, hcontent, hother⟩ := h
    exact ⟨hstdout, i, hlocate, hcontent, fun j hj => (hother j hj).trans (congrFun hc j)⟩

variable {fs : FileSystem (StateM σ)} {v : View σ ι} {s s' : σ} {entropy : UInt64} {o : Options}
  {content : Except FileError ByteArray} {output : Option Text} {t : Text} {log : Text}
  {delivery : Delivery} {out : Output} {path : Text} {r : Except FileError Unit} {args : List Text}
  {s₁ : σ} {attempts : Nat}

theorem process_cases (entropy : UInt64) (o : Options) (content : Except FileError ByteArray)
    (attempts : Nat) :
    ((process entropy o content attempts).2 = .crash
      ∨ ∃ failure, (process entropy o content attempts).2 = .fail failure)
    ∨ ∃ data input result, content = .ok data ∧ textOf data = .ok input
      ∧ (obfuscate o.strategy (o.seed.getD entropy) input attempts).result = .ok result
      ∧ (process entropy o content attempts).2 = deliveryTo o.output result := by
  rw [process]
  cases content with
  | error e => exact .inl (.inr ⟨_, rfl⟩)
  | ok data =>
    rw [show (Except.ok data : Except FileError ByteArray) >>= textOf = textOf data from rfl]
    cases hinput : textOf data with
    | error e => exact .inl (.inr ⟨_, rfl⟩)
    | ok input =>
      cases hresult : (obfuscate o.strategy (o.seed.getD entropy) input attempts).result with
      | error refusal =>
        left
        simp only [hresult]
        cases refusal with
        | panic => exact .inl rfl
        | _ => exact .inr ⟨_, rfl⟩
      | ok result =>
        refine .inr ⟨data, input, result, rfl, hinput, hresult, ?_⟩
        simp only [hresult]
        cases o.output <;> rfl

/-- A run that ends early leaves no trace in the files or on the output stream. -/
theorem deliver_of_failed (h : delivery = .crash ∨ ∃ failure, delivery = .fail failure)
    (hr : deliver fs log delivery s = (out, s')) : out.code ≠ 0 ∧ out.stdout = [] ∧ s' = s := by
  rcases h with rfl | ⟨failure, rfl⟩
  · obtain ⟨rfl, rfl⟩ := Prod.mk.inj hr
    exact ⟨Nat.succ_ne_zero 100, rfl, rfl⟩
  · obtain ⟨rfl, rfl⟩ := Prod.mk.inj hr
    exact ⟨Nat.one_ne_zero, rfl, rfl⟩

theorem deliver_save (h : fs.write path (bytesOf t) s = (r, s')) :
    deliver fs log (.save path t) s = (Output.ofWrite log path r, s') := by
  rw [deliver]
  change StateT.bind (fs.write path (bytesOf t)) _ s = _
  rw [StateT.bind, h]
  rfl

theorem deliver_deliveryTo (h : fs.Lawful v)
    (hr : deliver fs log (deliveryTo output t) s = (out, s')) :
    out.code ≠ 0 ∧ out.stdout = [] ∧ v.content s' = v.content s
      ∨ out.code = 0 ∧ Delivered v output t s out s' := by
  cases output with
  | none =>
    obtain ⟨rfl, rfl⟩ := Prod.mk.inj hr
    exact .inr ⟨rfl, rfl, rfl⟩
  | some path =>
    obtain ⟨r, s₁, hw⟩ : ∃ r s₁, fs.write path (bytesOf t) s = (r, s₁) := ⟨_, _, rfl⟩
    obtain ⟨rfl, rfl⟩ := Prod.mk.inj ((deliver_save hw).symm.trans hr)
    cases r with
    | error e => exact .inl ⟨Nat.one_ne_zero, rfl, h.write_error hw⟩
    | ok _ => exact .inr ⟨rfl, rfl, h.write_ok hw⟩

theorem runOn_of_run (ho : Request.ofArgs args = .ok (.run o))
    (hread : fs.read o.input s = (content, s₁))
    (hd : deliver fs (process entropy o content attempts).1 (process entropy o content attempts).2
      s₁ = (out, s')) :
    runOn fs entropy args attempts s = (out.uncoloured, s') := by
  rw [runOn, ho]
  change StateT.bind (fs.read o.input) _ s = _
  rw [StateT.bind, hread]
  change StateT.bind (deliver fs (process entropy o content attempts).1
    (process entropy o content attempts).2) _ s₁ = _
  rw [StateT.bind, hd]
  rfl

/-- A run that fails changes no file and prints nothing, whatever made it fail. A run that succeeds,
unless it was asked for help, has read a text from its input, and the obfuscated text is all that
it leaves behind. -/
theorem run_atomic (h : fs.Lawful v) (hr : runOn fs entropy args attempts s = (out, s')) :
    (out.code ≠ 0 → out.stdout = [] ∧ v.content s' = v.content s)
    ∧ (out.code = 0 → (∀ long, Request.ofArgs args ≠ .ok (.help long)) →
      ∃ o result, Request.ofArgs args = .ok (.run o) ∧ Produces v entropy o attempts s result
        ∧ Delivered v o.output result s out s') := by
  cases hrequest : Request.ofArgs args with
  | error e =>
    rw [runOn, hrequest] at hr
    obtain ⟨rfl, rfl⟩ := Prod.mk.inj hr
    exact ⟨fun _ => ⟨rfl, rfl⟩, fun h => absurd h (Nat.succ_ne_zero 1)⟩
  | ok request =>
    cases request with
    | help long =>
      rw [runOn, hrequest] at hr
      obtain ⟨rfl, rfl⟩ := Prod.mk.inj hr
      exact ⟨fun h => absurd rfl h, fun _ h => absurd rfl (h long)⟩
    | run o =>
      obtain ⟨content, s₁, hread⟩ : ∃ content s₁, fs.read o.input s = (content, s₁) := ⟨_, _, rfl⟩
      obtain ⟨out₁, s₂, hd⟩ : ∃ out₁ s₂, deliver fs (process entropy o content attempts).1
        (process entropy o content attempts).2 s₁ = (out₁, s₂) := ⟨_, _, rfl⟩
      obtain ⟨rfl, rfl⟩ := Prod.mk.inj ((runOn_of_run hrequest hread hd).symm.trans hr)
      have hkept := h.read_keeps hread
      rcases process_cases entropy o content attempts with
        hfail | ⟨data, input, result, rfl, hi, ho, hp⟩
      · obtain ⟨hcode, hstdout, rfl⟩ := deliver_of_failed hfail hd
        exact ⟨fun _ => ⟨hstdout, hkept⟩, fun h => absurd h hcode⟩
      · rw [hp] at hd
        rcases deliver_deliveryTo h hd with ⟨hcode, hstdout, hfiles⟩ | ⟨hcode, hdelivered⟩
        · exact ⟨fun _ => ⟨hstdout, hfiles.trans hkept⟩, fun h => absurd h hcode⟩
        · refine ⟨fun h => absurd hcode h, fun _ _ => ?_⟩
          obtain ⟨i, hlocate, hcontent⟩ := h.read_ok hread
          exact ⟨o, result, rfl, ⟨i, data, input, hlocate, hcontent, hi, ho⟩,
            hdelivered.of_content hkept⟩

/-- Over the files of a directory: a run whose output goes back into its input file, and one whose
input has a syntax error. -/
theorem run_atomic_directory :
    let files : Files :=
      [("a.js".toList, bytesOf "f(\"a\")".toList), ("b.js".toList, bytesOf ['('])]
    let saving := ["a.js".toList, "-oa.js".toList]
    let failing := ["b.js".toList, "-oa.js".toList]
    (∃ out files', (runOn directory 0 saving).run files = (out, files') ∧ out.code = 0
      ∧ (∃ o result, Request.ofArgs saving = .ok (.run o)
        ∧ Produces directoryView 0 o Mask.attemptLimit files result
        ∧ Delivered directoryView o.output result files out files')
      ∧ files'.find? "a.js".toList
        = some (bytesOf "f(String.fromCharCode.apply(null, [97]))".toList))
    ∧ ∃ out files', (runOn directory 0 failing).run files = (out, files') ∧ out.code = 1
      ∧ out.stdout = [] ∧ files'.find? = files.find? := by
  intro files saving failing
  have hrequest : Request.ofArgs saving
      = .ok (.run ⟨"a.js".toList, some "a.js".toList, none, .textual, 0⟩) := by decide +kernel
  have hsaved : ((runOn directory 0 saving).run files).1.code = 0
      ∧ ((runOn directory 0 saving).run files).2.find? "a.js".toList
        = some (bytesOf "f(String.fromCharCode.apply(null, [97]))".toList) := by
    decide +kernel
  have hfailed : ((runOn directory 0 failing).run files).1.code = 1 := by decide +kernel
  obtain ⟨out, files', hr⟩ : ∃ out files', (runOn directory 0 saving).run files = (out, files') :=
    ⟨_, _, rfl⟩
  obtain ⟨failed, files'', hf⟩ :
    ∃ out files', (runOn directory 0 failing).run files = (out, files') := ⟨_, _, rfl⟩
  rw [hr] at hsaved
  rw [hf] at hfailed
  obtain ⟨hcode, hcontent⟩ := hsaved
  have hhelp : ∀ long, Request.ofArgs saving ≠ .ok (.help long) := by
    intro long h
    rw [hrequest, Except.ok.injEq] at h
    exact Request.noConfusion h
  obtain ⟨hstdout, hkept⟩ := (run_atomic directory_lawful hf).1 (by rw [hfailed]; decide)
  exact ⟨⟨out, files', hr, hcode, (run_atomic directory_lawful hr).2 hcode hhelp, hcontent⟩,
    failed, files'', hf, hfailed, hstdout, hkept⟩

end ScriptVeil.CommandLine
