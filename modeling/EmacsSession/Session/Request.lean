/-
This file builds requests: forms that are evaluated together.
-/

import EmacsSession.Form.Basic
import EmacsSession.Session.Run

namespace EmacsSession

/-- A request of a daemon: forms in order, and the text for standard input. -/
structure Request (Daemon : Type) where
  daemon : Daemon
  forms : List Value := []
  input : Value := .absent

namespace Request

variable {Daemon : Type}

/-- The request with more forms behind the others. -/
def append (request : Request Daemon) (forms : List Value) : Request Daemon :=
  { request with forms := request.forms ++ forms }

/-- The request with a feature that is loaded behind the other forms. -/
def load (request : Request Daemon) (feature file : Value) : Except Fault (Request Daemon) := do
  let form ← Form.require feature file
  .ok (request.append [form])

/-- The request with another input. -/
def withInput (request : Request Daemon) (input : Value) : Request Daemon :=
  { request with input := input }

/-- The form that evaluates all forms of a request in order. -/
def form (request : Request Daemon) : Value :=
  Form.progn request.forms

/-- A request is run by the evaluation of its form with its input. -/
def run (request : Request Daemon) : Event :=
  .evaluate request.form request.input

/-- A short description of a request. -/
def describe (request : Request Daemon) : Except Kind String := do
  let text ← request.form.print
  .ok ("<Request " ++ text ++ ">")

end Request

end EmacsSession
