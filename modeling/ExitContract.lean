import ExitContract.Json.Reader
import ExitContract.Main
import ExitContract.Proofs.ArgumentFile.Flattening
import ExitContract.Proofs.ArgumentFile.RawArguments
import ExitContract.Proofs.CommandLine.WrittenRequest
import ExitContract.Proofs.Config.Layering
import ExitContract.Proofs.LineStream.KillCode
import ExitContract.Proofs.LineStream.TwoViews
import ExitContract.Proofs.Program.Noninterference
import ExitContract.Proofs.Program.Status
import ExitContract.Proofs.Words.Accepted
import ExitContract.Proofs.Words.Comments
import ExitContract.Proofs.Program.Deadline
import ExitContract.Proofs.LineStream.Draining
import ExitContract.Proofs.LineStream.Answering
import ExitContract.Proofs.LineStream.Collecting
import ExitContract.Proofs.Json.Reread
import ExitContract.Proofs.Program.Formats
import ExitContract.Proofs.Program.PrintedWords
import ExitContract.Proofs.Config.Documents
