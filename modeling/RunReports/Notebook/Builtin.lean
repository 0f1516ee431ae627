import RunReports.Notebook.Cell

/-! # Built-in cells

The cells that stand in every report beside those of its template. They read the run data and
the control variables when the report is executed. -/
namespace RunReports.Notebook

/-- Lines of code as source lines: all but the last end in a line feed. -/
def sourceOf : List String → List String
  | [] => []
  | [line] => [line]
  | line :: next :: rest => (line ++ "\n") :: sourceOf (next :: rest)

/-- The control block of templates that have none: results are downloaded, inputs are not. -/
def defaultControlLines : List String := sourceOf [
  "# Control block",
  "report_download_results = True",
  "report_download_inputs = False"]

def runMetadataLines : List String := sourceOf [
  "# Run metadata",
  "from IPython.display import Markdown",
  "md_string = f\"# \x7breport_run_data['name']\x7d\\n### ID: \x7breport_run_data['run_id']\x7d\\n\"",
  "md_string += f\"#### Status: \x7breport_run_data['status']\x7d\\n\"",
  "md_string += f\"#### Start time: \x7breport_run_data['created_at']\x7d\\n#### End time: \x7breport_run_data['finished_at']\x7d\\n\"",
  "md_string += f\"#### Test job ID: \x7breport_run_data['test_job_id']\x7d\\n\"",
  "md_string += f\"#### Eval job ID: \x7breport_run_data['eval_job_id']\x7d\\n\"",
  "Markdown(md_string)"]

/-- Downloads the files of the run, as the control variables say. -/
def fileDownloadLines : List String := sourceOf [
  "import os",
  "import subprocess",
  "",
  "# Local paths of downloaded files, keyed like report_run_data",
  "report_downloads = \x7b\x7d",
  "",
  "def _report_download_file(uri, directory):",
  "    os.makedirs(directory, exist_ok=True)",
  "    completed = subprocess.run(['gsutil', 'cp', uri, directory])",
  "    if completed.returncode != 0:",
  "        raise RuntimeError(f'gsutil exited with code \x7bcompleted.returncode\x7d while downloading \x7buri\x7d')",
  "    return os.path.join(directory, uri[uri.rfind('/') + 1:])",
  "",
  "def _report_download_value(value, directory):",
  "    if isinstance(value, str) and value.startswith('gs://'):",
  "        return _report_download_file(value, directory)",
  "    if isinstance(value, list):",
  "        downloaded = [_report_download_value(item, directory) for item in value]",
  "        downloaded = [item for item in downloaded if item is not None]",
  "        return downloaded or None",
  "    return None",
  "",
  "def report_download_section(section):",
  "    directory = os.path.join('report_downloads', section)",
  "    report_downloads[section] = \x7b\x7d",
  "    for key, value in (report_run_data[section] or \x7b\x7d).items():",
  "        local_value = _report_download_value(value, directory)",
  "        if local_value is not None:",
  "            report_downloads[section][key] = local_value",
  "",
  "if report_download_results:",
  "    report_download_section('results')",
  "if report_download_inputs:",
  "    report_download_section('test_input')",
  "    report_download_section('eval_input')"]

/-- Shows the inputs and results of the run as tables. -/
def runTablesLines : List String := sourceOf [
  "# Run inputs and results",
  "from IPython.display import Markdown",
  "",
  "def _report_table(title, values):",
  "    rows = [f\"### \x7btitle\x7d:\", \"| Name | Value |\", \"| :--- | :--- |\"]",
  "    for key, value in (values or \x7b\x7d).items():",
  "        rows.append(f\"| \x7bstr(key).replace('|', '&#124;')\x7d | \x7bstr(value).replace('|', '&#124;')\x7d |\")",
  "    return \"\\n\".join(rows) + \"\\n\"",
  "",
  "md_string = _report_table(\"Test Inputs\", report_run_data['test_input'])",
  "md_string += _report_table(\"Eval Inputs\", report_run_data['eval_input'])",
  "md_string += _report_table(\"Results\", report_run_data['results'])",
  "Markdown(md_string)"]

def defaultControlCell : Cell := Cell.ofLines defaultControlLines

def runMetadataCell : Cell := Cell.ofLines runMetadataLines

def fileDownloadCell : Cell := Cell.ofLines fileDownloadLines

def runTablesCell : Cell := Cell.ofLines runTablesLines

end RunReports.Notebook
