import Courier.Api.Verdict
import Courier.Text.Paint

/-!
# `Courier.Terminal`: what the operator sees

The texts that go to the terminal beside the results: notices, the line that something is going
on, and the login dialog.
-/

set_option autoImplicit false

namespace Courier

/-- What a login dialog shows. -/
structure LoginDialog where
  title : String
  /-- The label of the button that logs in. -/
  acceptText : String
  component : String
  /-- Whether the dialog stays open after a login that failed. -/
  staysOpen : Bool
deriving DecidableEq

/-- The dialog that opens when the server asks for a login. -/
def LoginDialog.standard : LoginDialog where
  title := "Log in to continue"
  acceptText := "LOGIN"
  component := "login-dialog"
  staysOpen := true

namespace Terminal

/-- Returns to the start of the line and clears it. -/
def clearLine : String := "\r\x1b[2K"

/-- The line of a notice. -/
def noticeLine (colored : Bool) (n : Notice) : String :=
  (match n.kind with
    | .info => Text.paint colored .cyan "info:"
    | .error => Text.paint colored .boldRed "error:") ++ " " ++ n.text

/-- What is written when it becomes visible, or no longer is, that something is going on. On
anything but a terminal that is nothing. -/
def loading (interactive colored visible : Bool) : String :=
  if interactive then
    if visible then Text.paint colored .dimmed "working..." ++ "\r" else clearLine
  else ""

/-- What is shown of a password: a star for each character. -/
def mask (s : String) : String := String.ofList (s.toList.map fun _ => '*')

/-- Whether the line is drawn again after each key, so that no character stays readable. -/
def redrawsMask : Bool := true

/-- What is written when the login dialog opens, or asks again after a login that failed. -/
def dialogOpened (colored : Bool) (dialog : LoginDialog) (lastError : Option String) : String :=
  clearLine ++ Text.paint colored .bold dialog.title ++ "\n"
    ++ (match lastError with
      | some e => Text.paint colored .red e ++ "\n"
      | none => "")

/-- What is written when the dialog has been filled in. -/
def dialogAccepted (colored : Bool) (dialog : LoginDialog) : String :=
  Text.paint colored .dimmed dialog.acceptText ++ "\n"

end Terminal

end Courier
