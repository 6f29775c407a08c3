import ServiceCli.Source.File

/-!
The arguments that the functions of a file register: one for each flag of a set, called like its
path, and one for the whole request in each command that takes it.
-/
namespace ServiceCli.Source

/-- The name of the argument that an expression makes, if it makes one. -/
def Expr.argument? : Expr → Option Expr
  | .method receiver _ _ => receiver.argument?
  | .call (.verbatim "::clap::Arg::new") [name] => some name
  | _ => none

/-- The name of the argument that the call of a method registers, if it registers one. -/
def registeredBy : String × List Expr → List Expr
  | ("arg", [a]) => a.argument?.toList
  | _ => []

/-- The names of the arguments that a chain of calls registers, in order. -/
def Expr.registered : Expr → List Expr
  | .method receiver name args => receiver.registered ++ registeredBy (name, args)
  | _ => []

/-- The names of the arguments that a function registers. -/
def Function.registered (f : Function) : List Expr :=
  (f.start.map Expr.registered).getD [] ++ f.result.registered

theorem Expr.methods_cons (e : Expr) (call : String × List Expr)
    (calls : List (String × List Expr)) :
    e.methods (call :: calls) = (e.method call.1 call.2).methods calls := rfl

theorem Expr.argument?_methods (e : Expr) (calls : List (String × List Expr)) :
    (e.methods calls).argument? = e.argument? := by
  induction calls generalizing e with
  | nil => rfl
  | cons call calls ih => rw [methods_cons, ih, argument?]

theorem Expr.registered_methods (e : Expr) (calls : List (String × List Expr)) :
    (e.methods calls).registered = e.registered ++ calls.flatMap registeredBy := by
  induction calls generalizing e with
  | nil => simp [methods]
  | cons call calls ih => rw [methods_cons, ih, registered, List.flatMap_cons, List.append_assoc]

theorem argument?_requestArgument (short : Option Char) :
    (requestArgument short).argument? = some (.ofText requestFlag) := by
  rw [requestArgument, Expr.argument?_methods]
  rfl

theorem argument?_flagArgument (path : String) (t : FlagType) :
    (flagArgument path t).argument? = some (.ofText path) := by
  rw [flagArgument, Expr.argument?_methods]
  rfl

theorem registeredBy_arg (a : Expr) : registeredBy ("arg", [a]) = a.argument?.toList := rfl

theorem registeredBy_of_ne {name : String} {args : List Expr} (h : name ≠ "arg") :
    registeredBy (name, args) = [] := by
  unfold registeredBy
  split
  · rename_i heq
    exact absurd (congrArg Prod.fst heq) h
  · rfl

/-- Of all that a command asks for, only the flag that takes the whole request is an argument. -/
theorem registered_commandItem (short : Option Char) (c : Command) (flags : Option String) :
    (commandItem short c flags).registered =
      if c.hasRequest then [.ofText requestFlag] else [] := by
  have hcalls : (commandCalls short c).flatMap registeredBy =
      if c.hasRequest then [.ofText requestFlag] else [] := by
    rw [commandCalls]
    cases c.alias? <;> cases c.hasRequest <;> split <;>
      simp (disch := decide) [List.flatMap_map, registeredBy_of_ne, registeredBy_arg,
        argument?_requestArgument]
  have hresult : (commandItem short c flags).result.registered = [] := by
    cases flags <;> rfl
  rw [Function.registered, hresult, List.append_nil, ← hcalls]
  exact Expr.registered_methods _ _

theorem registered_flagsItem (function : String) (s : FlagSchema) :
    (flagsItem function s).registered = s.flags.keys.map Expr.ofText := by
  show [] ++ ((Expr.ident commandVariable).methods _).registered = _
  rw [List.nil_append, Expr.registered_methods, NameMap.keys, List.flatMap_map, List.map_map]
  simp only [Expr.registered, registeredBy_arg, argument?_flagArgument, List.nil_append]
  exact List.map_eq_flatMap.symm

end ServiceCli.Source
